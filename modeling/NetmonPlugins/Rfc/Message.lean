import NetmonPlugins.Common.Occurrences

/-!
This module contains the text messages HTTP and SIP have in common: a start line, header fields and
an empty line, every line ended by CRLF. What a reader accepts is exactly what is written for a
message in which no part holds what ends it.
-/

namespace NetmonPlugins
namespace Message

/-- What stands before and behind the first `c`. -/
def cut (c : UInt8) (text : Bytes) : Option (Bytes × Bytes) :=
  match text.dropWhile (· ≠ c) with
  | [] => none
  | _ :: behind => some (text.takeWhile (· ≠ c), behind)

theorem cut_eq_some_iff {c : UInt8} {text before behind : Bytes}
    : cut c text = some (before, behind) ↔ text = before ++ c :: behind ∧ c ∉ before := by
  unfold cut
  constructor
  . intro hcut
    split at hcut
    . contradiction
    . next c' behind' hbehind =>
      rw [Option.some.injEq, Prod.mk.injEq] at hcut
      obtain ⟨rfl, rfl⟩ := hcut
      have hc := eq_of_dropWhile_ne hbehind
      subst hc
      constructor
      . rw [← hbehind, List.takeWhile_append_dropWhile]
      . intro hmem
        have := List.mem_takeWhile_imp hmem
        simp at this
  . rintro ⟨rfl, hnot⟩
    have hbefore : ∀ b ∈ before, decide (b ≠ c) = true := by
      intro b hb
      rw [decide_eq_true_iff]
      rintro rfl
      exact hnot hb
    have hstop : ∀ b ∈ (c :: behind).head?, decide (b ≠ c) = false := by
      simp
    rw [takeWhile_append_of_head hbefore hstop, dropWhile_append_of_head hbefore hstop]

structure Field where
  name : Bytes
  -- All that follows the colon.
  value : Bytes
  deriving DecidableEq

def Field.text (field : Field) : Bytes := field.name ++ 58 :: field.value

def Field.read (line : Bytes) : Option Field := do
  let (name, value) ← cut 58 line
  if name = [] then none else some ⟨name, value⟩

structure Field.WellFormed (field : Field) : Prop where
  name_ne_nil : field.name ≠ []
  colon_notMem : 58 ∉ field.name

def readFields : List Bytes → Option (List Field)
  | [] => some []
  | line :: lines => do
    let field ← Field.read line
    let fields ← readFields lines
    some (field :: fields)

def readLine (text : Bytes) : Option (Bytes × Bytes) :=
  (find text crlf 0).map fun lineEnd => (text.take lineEnd, text.drop (lineEnd + 2))

theorem readLine_eq_some_iff {text line rest : Bytes}
    : readLine text = some (line, rest) ↔ text = line ++ (crlf ++ rest) ∧ ¬ crlf <:+: line := by
  have hdrop (line' rest' : Bytes)
      : (line' ++ (crlf ++ rest')).drop (line'.length + 2) = rest' := by
    rw [← List.append_assoc]
    apply List.drop_left'
    simp [crlf]
  simp only [readLine, Option.map_eq_some_iff, find_crlf_eq_some_iff, Prod.mk.injEq]
  constructor
  . rintro ⟨_, ⟨line', rest', rfl, rfl, hline⟩, rfl, rfl⟩
    rw [List.take_left, hdrop]
    exact ⟨rfl, hline⟩
  . rintro ⟨rfl, hline⟩
    exact ⟨_, ⟨line, rest, rfl, rfl, hline⟩, List.take_left, hdrop line rest⟩

/-- The lines up to the first empty one, and what follows that. -/
def readLines (text : Bytes) : Option (List Bytes × Bytes) :=
  match _h : readLine text with
  | none => none
  | some (line, rest) =>
    if line = [] then
      some ([], rest)
    else
      (readLines rest).map fun (lines, body) => (line :: lines, body)
termination_by text.length
decreasing_by
  rw [(readLine_eq_some_iff.mp _h).1]
  simp only [List.length_append, crlf, List.length_cons]
  omega

def writeLines (lines : List Bytes) (body : Bytes) : Bytes :=
  lines.flatMap (· ++ crlf) ++ (crlf ++ body)

structure IsUnbroken (line : Bytes) : Prop where
  ne_nil : line ≠ []
  not_crlf : ¬ crlf <:+: line

theorem readLines_of_readLine {text line rest : Bytes} (h : readLine text = some (line, rest))
    : readLines text
        =
      if line = [] then
        some ([], rest)
      else
        (readLines rest).map fun (lines, body) => (line :: lines, body) := by
  rw [readLines]
  split
  . next hnone =>
    rw [hnone] at h
    contradiction
  . next line' rest' hsome =>
    rw [hsome, Option.some.injEq, Prod.mk.injEq] at h
    rw [h.1, h.2]

theorem readLines_of_none {text : Bytes} (h : readLine text = none) : readLines text = none := by
  rw [readLines]
  split
  . rfl
  . next hsome =>
    rw [hsome] at h
    contradiction

theorem readLines_eq_some_iff {text body : Bytes} {lines : List Bytes}
    : readLines text = some (lines, body)
        ↔
      (∀ line ∈ lines, IsUnbroken line) ∧ text = writeLines lines body := by
  have hempty (rest : Bytes) : readLine (crlf ++ rest) = some ([], rest) := by
    rw [readLine_eq_some_iff]
    exact ⟨rfl, by simp [crlf]⟩
  constructor
  . intro hread
    induction lines generalizing text with
    | nil =>
      cases hline : readLine text with
      | none =>
        rw [readLines_of_none hline] at hread
        contradiction
      | some split =>
        rw [readLines_of_readLine hline] at hread
        split at hread
        . next hnil =>
          rw [Option.some.injEq, Prod.mk.injEq] at hread
          rw [readLine_eq_some_iff, hnil, hread.2] at hline
          exact ⟨by simp, hline.1⟩
        . simp at hread
    | cons line lines ih =>
      cases hline : readLine text with
      | none =>
        rw [readLines_of_none hline] at hread
        contradiction
      | some split =>
        obtain ⟨line', rest⟩ := split
        rw [readLines_of_readLine hline] at hread
        split at hread
        . simp at hread
        . next hne =>
          simp only [Option.map_eq_some_iff, Prod.mk.injEq, List.cons.injEq, Prod.exists] at hread
          obtain ⟨_, _, hrest, ⟨rfl, rfl⟩, rfl⟩ := hread
          obtain ⟨hlines, rfl⟩ := ih hrest
          rw [readLine_eq_some_iff] at hline
          obtain ⟨rfl, hnot⟩ := hline
          refine ⟨List.forall_mem_cons.mpr ⟨⟨hne, hnot⟩, hlines⟩, ?_⟩
          simp [writeLines]
  . rintro ⟨hlines, rfl⟩
    induction lines with
    | nil =>
      rw [writeLines, List.flatMap_nil, List.nil_append, readLines_of_readLine (hempty body),
        if_pos rfl]
    | cons line lines ih =>
      rw [List.forall_mem_cons] at hlines
      have hline : readLine (writeLines (line :: lines) body)
          = some (line, writeLines lines body) := by
        rw [readLine_eq_some_iff]
        exact ⟨by simp [writeLines], hlines.1.not_crlf⟩
      rw [readLines_of_readLine hline, if_neg hlines.1.ne_nil, ih hlines.2, Option.map_some]

theorem Field.read_eq_some_iff {line : Bytes} {field : Field}
    : read line = some field ↔ line = field.text ∧ field.WellFormed := by
  simp only [read, Option.bind_eq_bind, Option.bind_eq_some_iff, Prod.exists, cut_eq_some_iff,
    Option.ite_none_left_eq_some, Option.some.injEq]
  constructor
  . rintro ⟨name, value, ⟨rfl, hcolon⟩, hne, rfl⟩
    exact ⟨rfl, hne, hcolon⟩
  . rintro ⟨rfl, hne, hcolon⟩
    exact ⟨field.name, field.value, ⟨rfl, hcolon⟩, hne, rfl⟩

theorem readFields_eq_some_iff {lines : List Bytes} {fields : List Field}
    : readFields lines = some fields
        ↔
      lines = fields.map Field.text ∧ ∀ field ∈ fields, field.WellFormed := by
  induction lines generalizing fields with
  | nil =>
    cases fields with
    | nil => simp [readFields]
    | cons field fields => simp [readFields]
  | cons line lines ih =>
    cases fields with
    | nil => simp [readFields, Option.bind_eq_some_iff]
    | cons field fields =>
      simp only [readFields, Option.bind_eq_bind, Option.bind_eq_some_iff, Option.some.injEq,
        List.cons.injEq, List.map_cons, List.forall_mem_cons, Field.read_eq_some_iff, ih]
      constructor
      . rintro ⟨_, hline, _, hlines, rfl, rfl⟩
        exact ⟨⟨hline.1, hlines.1⟩, hline.2, hlines.2⟩
      . rintro ⟨⟨hline, hlines⟩, hfield, hfields⟩
        exact ⟨field, ⟨hline, hfield⟩, fields, ⟨hlines, hfields⟩, rfl, rfl⟩

theorem crlf_isInfix_append {line rest : Bytes}
    (h : line.getLast? ≠ some 13 ∨ rest.head? ≠ some 10)
    : crlf <:+: line ++ rest ↔ crlf <:+: line ∨ crlf <:+: rest := by
  constructor
  . intro hbreak
    rw [List.infix_append_iff] at hbreak
    rcases hbreak with hline | hrest | ⟨before, behind, hcrlf, ⟨front, rfl⟩, ⟨back, rfl⟩⟩
    . exact .inl hline
    . exact .inr hrest
    . match before, behind with
      | [], behind =>
        rw [hcrlf]
        exact .inr (List.prefix_append _ back).isInfix
      | before, [] =>
        rw [hcrlf, List.append_nil]
        exact .inl (List.suffix_append front before).isInfix
      | [c], d :: behind =>
        simp only [crlf, List.cons_append, List.nil_append, List.cons.injEq] at hcrlf
        simp [← hcrlf.1, ← hcrlf.2.1] at h
      | c :: c' :: before, d :: behind =>
        have hlength := congrArg List.length hcrlf
        simp [crlf] at hlength
  . rintro (hline | hrest)
    . exact hline.trans (List.prefix_append line rest).isInfix
    . exact hrest.trans (List.suffix_append line rest).isInfix

theorem crlf_isInfix_append_left {before line : Bytes} (h : 13 ∉ before)
    : crlf <:+: before ++ line ↔ crlf <:+: line := by
  rw [crlf_isInfix_append (.inl fun hlast => h (List.mem_of_getLast? hlast)), or_iff_right]
  intro hbreak
  exact h (hbreak.subset (by decide))

theorem crlf_isInfix_append_right {line after : Bytes} (h : 10 ∉ after)
    : crlf <:+: line ++ after ↔ crlf <:+: line := by
  rw [crlf_isInfix_append (.inr fun hhead => h (List.mem_of_head? hhead)), or_iff_left]
  intro hbreak
  exact h (hbreak.subset (by decide))

theorem Field.crlf_isInfix_text {field : Field} (h : 13 ∉ field.name)
    : crlf <:+: field.text ↔ crlf <:+: field.value := by
  have hcolon : field.text = (field.name ++ [58]) ++ field.value := by
    simp [text]
  rw [hcolon, crlf_isInfix_append_left]
  simp [h]

end Message

/-- `METHOD target VERSION`, with one blank between the parts. -/
structure RequestLine where
  method : Bytes
  target : Bytes
  version : Bytes
  deriving DecidableEq

namespace RequestLine

def text (line : RequestLine) : Bytes := line.method ++ 32 :: (line.target ++ 32 :: line.version)

def read (text : Bytes) : Option RequestLine := do
  let (method, rest) ← Message.cut 32 text
  let (target, version) ← Message.cut 32 rest
  if method = [] ∨ target = [] ∨ version = [] ∨ 32 ∈ version then
    none
  else
    some ⟨method, target, version⟩

structure WellFormed (line : RequestLine) : Prop where
  method : line.method ≠ [] ∧ 32 ∉ line.method
  target : line.target ≠ [] ∧ 32 ∉ line.target
  version : line.version ≠ [] ∧ 32 ∉ line.version

theorem read_eq_some_iff {text : Bytes} {line : RequestLine}
    : read text = some line ↔ text = line.text ∧ line.WellFormed := by
  simp only [read, Option.bind_eq_bind, Option.bind_eq_some_iff, Prod.exists,
    Message.cut_eq_some_iff, Option.ite_none_left_eq_some, Option.some.injEq, not_or]
  constructor
  . rintro ⟨method, _, ⟨rfl, hmethod⟩, target, version, ⟨rfl, htarget⟩, ⟨hm, ht, hv, hversion⟩, rfl⟩
    exact ⟨rfl, ⟨hm, hmethod⟩, ⟨ht, htarget⟩, hv, hversion⟩
  . rintro ⟨rfl, ⟨hm, hmethod⟩, ⟨ht, htarget⟩, hv, hversion⟩
    exact ⟨line.method, _, ⟨rfl, hmethod⟩, line.target, line.version, ⟨rfl, htarget⟩,
      ⟨hm, ht, hv, hversion⟩, rfl⟩

end RequestLine

structure Request where
  line : RequestLine
  fields : List Message.Field
  deriving DecidableEq

namespace Request

def lines (request : Request) : List Bytes :=
  request.line.text :: request.fields.map Message.Field.text

def text (request : Request) (body : Bytes) : Bytes := Message.writeLines request.lines body

/-- The request at the front of a text, and what follows its empty line. -/
def read (text : Bytes) : Option (Request × Bytes) := do
  let (lines, body) ← Message.readLines text
  let line ← RequestLine.read (lines.headD [])
  let fields ← Message.readFields lines.tail
  some (⟨line, fields⟩, body)

structure WellFormed (request : Request) : Prop where
  line : request.line.WellFormed
  fields : ∀ field ∈ request.fields, field.WellFormed
  unbroken : ∀ line ∈ request.lines, ¬ crlf <:+: line

/-- One target, whatever stands around it. -/
structure IsTarget (target : Bytes) : Prop where
  ne_nil : target ≠ []
  blank_notMem : 32 ∉ target
  unbroken : ¬ crlf <:+: target

theorem crlf_isInfix_text_line {line : RequestLine} (hmethod : 13 ∉ line.method)
    (hversion : 10 ∉ line.version)
    : crlf <:+: line.text ↔ crlf <:+: line.target := by
  have htext : line.text = (line.method ++ [32]) ++ (line.target ++ 32 :: line.version) := by
    simp [RequestLine.text]
  rw [htext, Message.crlf_isInfix_append_left (by simp [hmethod]),
    Message.crlf_isInfix_append_right (by simp [hversion])]

/-- What a client writes of its own, so that only the target and the values are open. -/
structure IsFixed (request : Request) : Prop where
  method : request.line.method ≠ [] ∧ 32 ∉ request.line.method ∧ 13 ∉ request.line.method
  version : request.line.version ≠ [] ∧ 32 ∉ request.line.version ∧ 10 ∉ request.line.version
  names : ∀ field ∈ request.fields, field.name ≠ [] ∧ 58 ∉ field.name ∧ 13 ∉ field.name

theorem IsFixed.wellFormed_iff {request : Request} (h : request.IsFixed)
    : request.WellFormed
        ↔
      IsTarget request.line.target ∧ ∀ field ∈ request.fields, ¬ crlf <:+: field.value := by
  have hline := crlf_isInfix_text_line h.method.2.2 h.version.2.2
  have hfield (field : Message.Field) (hfield : field ∈ request.fields)
      : crlf <:+: field.text ↔ crlf <:+: field.value :=
    Message.Field.crlf_isInfix_text (h.names field hfield).2.2
  constructor
  . rintro ⟨hwords, -, hunbroken⟩
    simp only [Request.lines, List.forall_mem_cons, List.forall_mem_map] at hunbroken
    rw [hline] at hunbroken
    refine ⟨⟨hwords.target.1, hwords.target.2, hunbroken.1⟩, ?_⟩
    intro field hmem
    rw [← hfield field hmem]
    exact hunbroken.2 field hmem
  . rintro ⟨htarget, hvalues⟩
    refine ⟨⟨⟨h.method.1, h.method.2.1⟩, ⟨htarget.ne_nil, htarget.blank_notMem⟩,
      ⟨h.version.1, h.version.2.1⟩⟩, ?_, ?_⟩
    . intro field hmem
      exact ⟨(h.names field hmem).1, (h.names field hmem).2.1⟩
    . simp only [Request.lines, List.forall_mem_cons, List.forall_mem_map]
      rw [hline]
      refine ⟨htarget.unbroken, ?_⟩
      intro field hmem
      rw [hfield field hmem]
      exact hvalues field hmem

theorem ne_nil_of_mem_lines {request : Request} {line : Bytes} (h : line ∈ request.lines)
    : line ≠ [] := by
  rw [lines, List.mem_cons, List.mem_map] at h
  rcases h with rfl | ⟨field, _, rfl⟩
  . simp [RequestLine.text]
  . simp [Message.Field.text]

theorem read_eq_some_iff {text body : Bytes} {request : Request}
    : read text = some (request, body) ↔ request.WellFormed ∧ text = request.text body := by
  simp only [read, Option.bind_eq_bind, Option.bind_eq_some_iff, Prod.exists,
    Message.readLines_eq_some_iff, RequestLine.read_eq_some_iff, Message.readFields_eq_some_iff,
    Option.some.injEq, Prod.mk.injEq]
  constructor
  . rintro ⟨lines, body, ⟨hlines, rfl⟩, line, ⟨hhead, hline⟩, fields, ⟨htail, hfields⟩, rfl, rfl⟩
    have hne : lines ≠ [] := by
      rintro rfl
      simp [RequestLine.text] at hhead
    have hrequest : lines = (⟨line, fields⟩ : Request).lines := by
      rw [Request.lines, ← htail, ← hhead]
      cases lines with
      | nil => contradiction
      | cons first rest => rfl
    rw [hrequest] at hlines ⊢
    exact ⟨⟨hline, hfields, fun line hline => (hlines line hline).not_crlf⟩, rfl⟩
  . rintro ⟨⟨hline, hfields, hunbroken⟩, rfl⟩
    refine ⟨request.lines, body, ⟨?_, rfl⟩, request.line, ⟨rfl, hline⟩, request.fields,
      ⟨rfl, hfields⟩, rfl, rfl⟩
    intro line hline
    exact ⟨ne_nil_of_mem_lines hline, hunbroken line hline⟩

theorem read_text_iff {request : Request} {body : Bytes}
    : read (request.text body) = some (request, body) ↔ request.WellFormed := by
  rw [read_eq_some_iff, and_iff_left rfl]

theorem IsFixed.read_text_iff {request : Request} (h : request.IsFixed) {body : Bytes}
    : read (request.text body) = some (request, body)
        ↔
      IsTarget request.line.target ∧ ∀ field ∈ request.fields, ¬ crlf <:+: field.value := by
  rw [Request.read_text_iff, h.wellFormed_iff]

end Request
end NetmonPlugins

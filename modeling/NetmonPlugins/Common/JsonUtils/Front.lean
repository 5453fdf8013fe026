import NetmonPlugins.Common.JsonUtils.Typed

/-!
This module contains what the lookups find in the front of a value: the part of its text that
`extractJsonValue` returns, up to the first comma or closing brace.
-/

namespace NetmonPlugins

open Regex Json

/-- The text in front of the first comma or closing brace, without the blanks at its end. -/
def cutoff : Bytes → Bytes
  | [] => []
  | c :: s =>
    if isValueByte c = true then
      if cutoff s = [] ∧ isTrimmed c = true then [] else c :: cutoff s
    else
      []

theorem cutoff_append {part s : Bytes} (hpart : ∀ c ∈ part, isValueByte c = true)
    (h : cutoff s ≠ [] ∨ ∀ c ∈ part.getLast?, isTrimmed c = false)
    : cutoff (part ++ s) = part ++ cutoff s := by
  induction part with
  | nil => rfl
  | cons c part ih =>
    rw [List.forall_mem_cons] at hpart
    have hrest : cutoff (part ++ s) = part ++ cutoff s := by
      apply ih hpart.2
      rcases h with h | h
      . exact .inl h
      . cases part with
        | nil => exact .inr (by simp)
        | cons b part =>
          rw [List.getLast?_cons_cons] at h
          exact .inr h
    rw [List.cons_append, cutoff, if_pos hpart.1, hrest, if_neg]
    . rfl
    . rintro ⟨hnil, hblank⟩
      rw [List.append_eq_nil_iff] at hnil
      rcases h with h | h
      . exact h hnil.2
      . rw [hnil.1] at h
        rw [h c rfl] at hblank
        contradiction

theorem cutoff_cons {c : UInt8} (hvalue : isValueByte c = true) (hblank : isTrimmed c = false)
    (s : Bytes)
    : cutoff (c :: s) = c :: cutoff s := by
  have hpart : ∀ b ∈ [c], isValueByte b = true := by
    simp [hvalue]
  exact cutoff_append hpart (.inr (by simp [hblank]))

theorem isTrimmed_of_isBlank {c : UInt8} (h : isBlank c = true) : isTrimmed c = true := h

theorem cutoff_blank (blank : Blank) {s : Bytes} (hs : cutoff s = [])
    : cutoff (blank.bytes ++ s) = [] := by
  obtain ⟨bytes, hblank⟩ := blank
  dsimp only
  induction bytes with
  | nil => exact hs
  | cons c bytes ih =>
    rw [List.forall_mem_cons] at hblank
    rw [List.cons_append, cutoff, ih hblank.2]
    split
    . rw [if_pos ⟨rfl, isTrimmed_of_isBlank hblank.1⟩]
    . rfl

theorem cutoff_of_closes {after : Bytes} (h : Closes after) : cutoff after = [] := by
  obtain ⟨blank, c, s, rfl, hc⟩ := h
  apply cutoff_blank
  rw [cutoff, if_neg]
  rcases hc with rfl | rfl
  . decide
  . decide

theorem cutoff_isPrefix {part : Bytes} (h : ∃ c ∈ part, isValueByte c = false) (s : Bytes)
    : cutoff (part ++ s) <+: part := by
  induction part with
  | nil => simp at h
  | cons c part ih =>
    rw [List.cons_append, cutoff]
    split
    . next hvalue =>
      split
      . exact List.nil_prefix
      . rw [List.cons_prefix_cons]
        refine ⟨rfl, ih ?_⟩
        obtain ⟨b, hb, hnot⟩ := h
        rcases List.mem_cons.mp hb with rfl | hb
        . rw [hvalue] at hnot
          contradiction
        . exact ⟨b, hb, hnot⟩
    . exact List.nil_prefix

theorem cutoff_cutoff (s : Bytes) : cutoff (cutoff s) = cutoff s := by
  induction s with
  | nil => rfl
  | cons c s ih =>
    rw [cutoff]
    split
    . next hvalue =>
      split
      . rfl
      . next hkept => rw [cutoff, if_pos hvalue, ih, if_neg hkept]
    . rfl

/-- This is what `extractJsonValue` makes of the text behind a colon. -/
theorem trim_takeWhile_eq_cutoff {s : Bytes} (hs : ∀ c ∈ s.head?, isTrimmed c = false)
    : trim (s.takeWhile isValueByte) = cutoff s := by
  have hend : ∀ s : Bytes,
      ((s.takeWhile isValueByte).reverse.dropWhile isTrimmed).reverse = cutoff s := by
    intro s
    induction s with
    | nil => rfl
    | cons c s ih =>
      rw [cutoff, List.takeWhile_cons]
      split
      . rw [List.reverse_cons, List.dropWhile_append, ← ih]
        by_cases hnil : (s.takeWhile isValueByte).reverse.dropWhile isTrimmed = []
        . by_cases hc : isTrimmed c = true
          . simp [hnil, hc]
          . simp [hnil, hc]
        . simp [hnil]
      . rfl
  unfold trim
  rw [← hend s]
  congr 3
  cases s with
  | nil => rfl
  | cons c s =>
    rw [List.takeWhile_cons]
    split
    . rw [List.dropWhile_cons_of_neg (by simp [hs c rfl])]
    . rfl

/-- The members on the way down along the first elements and members whose names are in the front. -/
def Json.Node.front : Node shape → List (Raw × ValueNode)
  | .literal _ => []
  | .string _ => []
  | .array elements _ => elements.front
  | .object members _ => members.front
  | .noElements => []
  | .element _ _ head _ => head.front
  | .noMembers => []
  | .member _ _ name _ _ value _ =>
    if name.bytes.all isValueByte then (name, value) :: value.front else []

def Json.Node.inFront (key : Bytes) (kind : ValueNode → Bool) (v : Node shape) : Option ValueNode :=
  (v.front.find? fun m => m.1.Reads key && kind m.2).map (·.2)

def FindsFront (key : Bytes) (items : List Item) (found : Option ValueNode) (text : Bytes) : Prop :=
  match found with
  | some value =>
    ∃ before colon space after, text
          = before ++ (quote key ++ behindName colon space (cutoff (value.text true ++ after)))
        ∧ Closes after
        ∧ ∀ pos, searchFrom (keyPattern key items) text pos
          = (matchHere items (behindName colon space (cutoff (value.text true ++ after)))
            (Match.pushAll {} (quote key))).map (pos + before.length, ·)
  | none => ∀ pos, searchFrom (keyPattern key items) text pos = none

structure RecognisesFront (items : List Item) (kind : ValueNode → Bool) : Prop where
  eq_none : ∀ (rest : Bytes) (m : Match), EndsValue rest → matchHere items rest m = none
  isSome_eq : ∀ (colon space : Blank) (value : ValueNode) (after : Bytes) (m : Match), Closes after
    → (matchHere items (behindName colon space (cutoff (value.text true ++ after))) m).isSome
      = kind value

theorem isValueByte_blank (blank : Blank) : ∀ c ∈ blank.bytes, isValueByte c = true :=
  fun c hc => isValueByte_of_isBlank (blank.blank c hc)

theorem cutoff_blank_append (blank : Blank) {s : Bytes} (hs : cutoff s ≠ [])
    : cutoff (blank.bytes ++ s) = blank.bytes ++ cutoff s :=
  cutoff_append (isValueByte_blank blank) (.inl hs)

theorem cutoff_closing (close : Blank) (rest : Bytes)
    : cutoff (close.bytes ++ 93 :: rest) = close.bytes ++ 93 :: cutoff rest := by
  have hbracket : cutoff (93 :: rest) = 93 :: cutoff rest := cutoff_cons (by decide) (by decide) rest
  rw [cutoff_blank_append close, hbracket]
  rw [hbracket]
  exact List.cons_ne_nil _ _

theorem ends_cutoff {rest : Bytes} (h : EndsValue rest) : EndsValue (cutoff rest) := by
  obtain ⟨blank, s, rfl, hs⟩ := h
  have hnil : cutoff s = [] → EndsValue (cutoff (blank.bytes ++ s)) := by
    intro hcut
    rw [cutoff_blank blank hcut]
    exact ⟨{}, [], rfl, by simp⟩
  cases s with
  | nil => exact hnil rfl
  | cons c s =>
    obtain rfl | rfl | rfl := hs c rfl
    . exact hnil rfl
    . exact hnil rfl
    . rw [cutoff_closing]
      exact ⟨blank, 93 :: cutoff s, rfl, by simp⟩

theorem cutoff_text (value : ValueNode) (after : Bytes)
    : ∃ c s s', value.text true = c :: s ∧ cutoff (value.text true ++ after) = c :: s'
        ∧ isSpace c = false := by
  obtain ⟨c, s, htext, hvalue, hspace, _⟩ := head_of_text value
  refine ⟨c, s, cutoff (s ++ after), htext, ?_, hspace⟩
  rw [htext, List.cons_append, cutoff_cons hvalue (isTrimmed_of_isSpace_eq_false hspace)]

theorem cutoff_text_ne_nil (value : ValueNode) (after : Bytes)
    : cutoff (value.text true ++ after) ≠ [] := by
  obtain ⟨c, s, s', _, hcut, _⟩ := cutoff_text value after
  rw [hcut]
  exact List.cons_ne_nil _ _

theorem cutoff_behindName (colon space : Blank) (value : ValueNode) (after : Bytes)
    : cutoff (behindName colon space (value.text true ++ after))
        =
      behindName colon space (cutoff (value.text true ++ after)) := by
  have hspace := cutoff_blank_append space (cutoff_text_ne_nil value after)
  have hcolon : cutoff (58 :: (space.bytes ++ (value.text true ++ after)))
      = 58 :: cutoff (space.bytes ++ (value.text true ++ after)) :=
    cutoff_cons (by decide) (by decide) _
  unfold behindName
  rw [cutoff_blank_append colon, hcolon, hspace]
  rw [hcolon]
  exact List.cons_ne_nil _ _

theorem cutoff_literal (atom : Literal) (rest : Bytes)
    : cutoff (atom.bytes ++ rest) = atom.bytes ++ cutoff rest := by
  apply cutoff_append fun c hc => isValueByte_of_isLiteralByte (atom.plain c hc)
  right
  intro c hc
  have hplain := atom.plain c (List.mem_of_getLast? hc)
  exact isTrimmed_of_isSpace_eq_false (isSpace_of_isLiteralByte hplain)

theorem cutoff_quoted {raw : Raw} (hraw : raw.bytes.all isValueByte = true) (rest : Bytes)
    : cutoff (quoted raw.bytes ++ rest) = quoted raw.bytes ++ cutoff rest := by
  apply cutoff_append
  . rw [List.all_eq_true] at hraw
    intro c hc
    unfold quoted at hc
    rw [List.mem_cons, List.mem_append, List.mem_singleton] at hc
    rcases hc with rfl | hc | rfl
    . rfl
    . exact hraw c hc
    . rfl
  . right
    intro c hc
    unfold quoted at hc
    rw [← List.cons_append, List.getLast?_concat, Option.mem_some] at hc
    rw [← hc]
    rfl

section

variable {key : Bytes} {items : List Item} {kind : ValueNode → Bool}

theorem searchFrom_nil (key : Bytes) (items : List Item) (pos : Nat)
    : searchFrom (keyPattern key items) [] pos = none := by
  have hnone : matchHere (keyPattern key items) [] {} = none := by
    apply matchHere_literal_of_not_isPrefix
    simp [quote, str]
  rw [searchFrom, hnone]
  rfl

theorem FindsFront.skip {found : Option ValueNode} {skipped text : Bytes}
    (hskip : ∀ pos, searchFrom (keyPattern key items) (skipped ++ text) pos
      = searchFrom (keyPattern key items) text (pos + skipped.length))
    (h : FindsFront key items found text)
    : FindsFront key items found (skipped ++ text) := by
  cases found with
  | none =>
    intro pos
    rw [hskip, h]
  | some value =>
    obtain ⟨before, colon, space, after, htext, hcloses, hsearch⟩ := h
    refine ⟨skipped ++ before, colon, space, after, ?_, hcloses, ?_⟩
    . rw [htext, List.append_assoc]
    . intro pos
      rw [hskip, hsearch, List.length_append, Nat.add_assoc]

/-- A string that is cut off has no quoted key in it. -/
theorem searchFrom_cut (hkey : IsIdentifier key) {raw : Raw} {part : Bytes}
    (hpart : part <+: raw.bytes) (pos : Nat)
    : searchFrom (keyPattern key items) (34 :: part) pos = none := by
  rw [Option.eq_none_iff_forall_not_mem]
  rintro ⟨pos', m⟩ hfound
  obtain ⟨skipped, rest, hs, _, hmatch⟩ := exists_of_searchFrom hfound
  obtain ⟨after, hrest, _⟩ := exists_of_matchHere_literal hmatch
  obtain ⟨more, hraw⟩ := hpart
  have hquote : quote key = 34 :: (key ++ [34]) := rfl
  rw [hrest, hquote] at hs
  have hnot : ¬ key ++ 34 :: (after ++ more) <:+ raw.bytes := not_key_quote_isSuffix hkey raw
  apply hnot
  cases skipped with
  | nil =>
    have heq := (List.cons.inj hs).2
    rw [← hraw, heq]
    simp
  | cons d skipped =>
    have heq := (List.cons.inj hs).2
    refine ⟨skipped ++ [34], ?_⟩
    rw [← hraw, heq]
    simp

theorem findsFront_cut (hkey : IsIdentifier key) {raw : Raw}
    (hraw : raw.bytes.all isValueByte = false) (rest : Bytes)
    : FindsFront key items none (cutoff (quoted raw.bytes ++ rest)) := by
  have hquote : cutoff (34 :: (raw.bytes ++ 34 :: rest)) = 34 :: cutoff (raw.bytes ++ 34 :: rest) :=
    cutoff_cons (by decide) (by decide) _
  have htext : quoted raw.bytes ++ rest = 34 :: (raw.bytes ++ 34 :: rest) := by
    simp [quoted]
  rw [List.all_eq_false] at hraw
  obtain ⟨c, hc, hnot⟩ := hraw
  intro pos
  rw [htext, hquote]
  apply searchFrom_cut hkey (cutoff_isPrefix ⟨c, hc, by simpa using hnot⟩ _)

theorem inFront_member (comma lead colon space : Blank) (name : Raw) (value : ValueNode)
    (members : Node .members) (hname : name.bytes.all isValueByte = true)
    : (Node.member comma lead name colon space value members).inFront key kind
        =
      if name.Reads key ∧ kind value = true then some value else value.inFront key kind := by
  unfold Node.inFront
  rw [Node.front, if_pos hname, List.find?_cons]
  split
  . next h =>
    rw [Bool.and_eq_true, decide_eq_true_eq] at h
    rw [if_pos h]
    rfl
  . next h =>
    rw [if_neg]
    intro hboth
    rw [decide_eq_true hboth.1, hboth.2] at h
    contradiction

theorem searchFrom_cutoff_of_nil {s : Bytes} (hs : cutoff s = []) (pos : Nat)
    : searchFrom (keyPattern key items) (cutoff s) pos = none := by
  rw [hs]
  apply searchFrom_nil

theorem searchFrom_cutoff_closing (close : Blank) {rest : Bytes}
    (hnone : ∀ pos, searchFrom (keyPattern key items) (cutoff rest) pos = none) (pos : Nat)
    : searchFrom (keyPattern key items) (cutoff (close.bytes ++ 93 :: rest)) pos = none := by
  have hquote : (34 : UInt8) ∉ close.bytes ++ [93] := by
    simp [close.notMem (c := 34) (by decide)]
  have hsplit : close.bytes ++ 93 :: cutoff rest = (close.bytes ++ [93]) ++ cutoff rest := by
    simp
  rw [cutoff_closing, hsplit, searchFrom_skip hquote, hnone]

/-- The elements behind the first begin with the comma that ends the front. -/
theorem searchFrom_cutoff_elements (elements : Node .elements) {rest : Bytes}
    (hnone : ∀ pos, searchFrom (keyPattern key items) (cutoff rest) pos = none) (pos : Nat)
    : searchFrom (keyPattern key items) (cutoff (elements.text false ++ rest)) pos = none := by
  cases elements with
  | noElements => exact hnone pos
  | element comma lead head tail =>
    have htext : (Node.element comma lead head tail).text false ++ rest
        = comma.bytes ++ (44 :: (lead.bytes ++ (head.text true ++ (tail.text false ++ rest)))) := by
      simp [Node.text, Blank.separator]
    apply searchFrom_cutoff_of_nil
    rw [htext]
    exact cutoff_blank comma rfl

theorem FindsFront.opening {found : Option ValueNode} {opening : UInt8} {text : Bytes}
    (hopening : opening = 91 ∨ opening = 123) (h : FindsFront key items found (cutoff text))
    : FindsFront key items found (cutoff (opening :: text)) := by
  have hvalue : isValueByte opening = true := by
    rcases hopening with rfl | rfl
    . rfl
    . rfl
  have hblank : isTrimmed opening = false := by
    rcases hopening with rfl | rfl
    . rfl
    . rfl
  have hquote : (34 : UInt8) ∉ [opening] := by
    rcases hopening with rfl | rfl
    . decide
    . decide
  rw [cutoff_cons hvalue hblank]
  exact FindsFront.skip (searchFrom_skip hquote _) h

theorem findsFront_string (hkey : IsIdentifier key) (hitems : RecognisesFront items kind) (raw : Raw)
    {rest : Bytes} (hrest : EndsValue rest)
    (hnone : ∀ pos, searchFrom (keyPattern key items) (cutoff rest) pos = none)
    : FindsFront key items none (cutoff (quoted raw.bytes ++ rest)) := by
  cases hraw : raw.bytes.all isValueByte with
  | false => exact findsFront_cut hkey hraw rest
  | true =>
    have hfinds : FindsFront key items none (cutoff rest) := hnone
    rw [cutoff_quoted hraw]
    apply FindsFront.skip _ hfinds
    intro pos
    apply searchFrom_string hkey raw (ends_cutoff hrest).isIdentifierByte_head
    intro _
    apply hitems.eq_none _ _ (ends_cutoff hrest)

/-- Of the members of an object the front holds at most the first. -/
theorem findsFront_member (hkey : IsIdentifier key) (hitems : RecognisesFront items kind)
    (comma lead colon space : Blank) (name : Raw) (value : ValueNode) (members : Node .members)
    {after : Bytes} (hafter : Closes after)
    (hvalue : FindsFront key items (value.inFront key kind) (cutoff (value.text true ++ after)))
    : FindsFront key items
        ((Node.member comma lead name colon space value members).inFront key kind)
        (cutoff (quoted name.bytes ++ behindName colon space (value.text true ++ after))) := by
  cases hname : name.bytes.all isValueByte with
  | false =>
    have hfront
        : (Node.member comma lead name colon space value members).inFront key kind = none := by
      simp [Node.inFront, Node.front, hname]
    rw [hfront]
    exact findsFront_cut hkey hname _
  | true =>
    have hhead := isIdentifierByte_behindName colon space (cutoff (value.text true ++ after))
    have hsome := hitems.isSome_eq colon space value _ (Match.pushAll {} (quote key)) hafter
    rw [inFront_member _ _ _ _ _ _ _ hname, cutoff_quoted hname, cutoff_behindName]
    split
    . next h =>
      rw [h.2] at hsome
      obtain ⟨before, htext, _⟩ := searchFrom_string_of_reads hkey h.1 hsome 0
      refine ⟨before, colon, space, after, htext, hafter, ?_⟩
      intro pos
      obtain ⟨before', htext', hsearch⟩ := searchFrom_string_of_reads hkey h.1 hsome pos
      rw [htext] at htext'
      rw [List.append_cancel_right htext', hsearch]
    . next h =>
      apply FindsFront.skip
      . intro pos
        apply searchFrom_string hkey name hhead
        intro hreads
        rw [← Option.not_isSome_iff_eq_none, hsome]
        intro hkind
        exact h ⟨hreads, hkind⟩
      . rw [behindName_eq]
        exact FindsFront.skip (searchFrom_skip (quote_notMem_colon colon space) _) hvalue

theorem findsFront_node (hkey : IsIdentifier key) (hitems : RecognisesFront items kind)
    {shape : Shape} (v : Node shape) {rest : Bytes} (hrest : Delimits shape rest)
    (hnone : ∀ pos, searchFrom (keyPattern key items) (cutoff rest) pos = none)
    : FindsFront key items (v.inFront key kind) (cutoff (v.text true ++ rest)) := by
  induction v generalizing rest with
  | literal atom =>
    have hcut : cutoff (atom.bytes ++ rest) = atom.bytes ++ cutoff rest := cutoff_literal atom rest
    have hquote : (34 : UInt8) ∉ atom.bytes := by
      intro hmem
      have hplain := atom.plain _ hmem
      revert hplain
      decide
    have hfinds : FindsFront key items none (cutoff rest) := hnone
    rw [Node.text, hcut]
    exact FindsFront.skip (searchFrom_skip hquote _) hfinds
  | string raw => exact findsFront_string hkey hitems raw hrest hnone
  | array elements close ih =>
    have htext : (Node.array elements close).text true ++ rest
        = 91 :: (elements.text true ++ (close.bytes ++ 93 :: rest)) := by
      simp [Node.text]
    rw [htext]
    exact FindsFront.opening (.inl rfl)
      (ih (ends_closing close (.inr rfl) rest) (searchFrom_cutoff_closing close hnone))
  | object members close ih =>
    have hcloses : Closes (close.bytes ++ 125 :: rest) := ⟨close, 125, rest, rfl, .inr rfl⟩
    have htext : (Node.object members close).text true ++ rest
        = 123 :: (members.text true ++ (close.bytes ++ 125 :: rest)) := by
      simp [Node.text]
    rw [htext]
    exact FindsFront.opening (.inr rfl)
      (ih hcloses (searchFrom_cutoff_of_nil (cutoff_of_closes hcloses)))
  | noElements => exact hnone
  | element comma lead head elements ihHead ihElements =>
    have htext : (Node.element comma lead head elements).text true ++ rest
        = lead.bytes ++ (head.text true ++ (elements.text false ++ rest)) := by
      simp [Node.text, Blank.separator]
    rw [htext, cutoff_blank_append lead (cutoff_text_ne_nil head _)]
    exact FindsFront.skip (searchFrom_skip (lead.notMem (by decide)) _)
      (ihHead (ends_text elements hrest) (searchFrom_cutoff_elements elements hnone))
  | noMembers => exact hnone
  | member comma lead name colon space value members ihValue ihMembers =>
    have hcloses := closes_text members hrest
    have htext : (Node.member comma lead name colon space value members).text true ++ rest
        = lead.bytes ++ (quoted name.bytes
          ++ behindName colon space (value.text true ++ (members.text false ++ rest))) := by
      simp [Node.text, Blank.separator, behindName]
    have hquoted : cutoff (quoted name.bytes
        ++ behindName colon space (value.text true ++ (members.text false ++ rest))) ≠ [] :=
      cutoff_text_ne_nil (.string name) _
    rw [htext, cutoff_blank_append lead hquoted]
    apply FindsFront.skip (searchFrom_skip (lead.notMem (by decide)) _)
    apply findsFront_member hkey hitems _ _ _ _ _ _ _ hcloses
    exact ihValue hcloses.ends (searchFrom_cutoff_of_nil (cutoff_of_closes hcloses))

end

/-- The end of a pattern matches the fronts of the values of one kind. -/
structure MatchesFront (tail : List Item) (kind : ValueNode → Bool) : Prop where
  isSome_eq : ∀ (value : ValueNode) (after : Bytes) (m : Match),
    (matchHere tail (cutoff (value.text true ++ after)) m).isSome = kind value
  greedy : (∀ value, kind value = true)
    ∨ ∀ c rest m, isSpace c = true → matchHere tail (c :: rest) m = none

section

variable {tail : List Item} {kind : ValueNode → Bool}

theorem MatchesFront.behindName (h : MatchesFront tail kind) (before space : Blank)
    (value : ValueNode) (after : Bytes) (m : Match)
    : matchHere (colon ++ tail) (behindName before space (cutoff (value.text true ++ after))) m
        =
      matchHere tail (cutoff (value.text true ++ after))
        ((m.pushAll (before.bytes ++ [58])).pushAll space.bytes) := by
  apply matchHere_behindName_of_head
  . obtain ⟨b, s, s', _, hcut, hspace⟩ := cutoff_text value after
    intro c hc
    rw [hcut, List.head?_cons, Option.mem_some] at hc
    rw [← hc, hspace]
  . exact h.greedy.imp_left fun hall m => (h.isSome_eq value after m).trans (hall value)

theorem MatchesFront.recognises (h : MatchesFront tail kind)
    : RecognisesFront (colon ++ tail) kind where
  eq_none := by
    intro rest m hrest
    exact matchHere_colon_of_ends hrest m
  isSome_eq := by
    intro before space value after m _
    rw [h.behindName, h.isSome_eq]

end

theorem matchesFront_bareTail : MatchesFront bareTail (fun _ => true) where
  isSome_eq := by
    intro value after m
    obtain ⟨c, s, htext, hvalue, _⟩ := head_of_text value
    obtain ⟨c', s', cut, htext', hcut, _⟩ := cutoff_text value after
    rw [htext, List.cons.injEq] at htext'
    unfold bareTail
    rw [hcut, matchHere_run]
    . rfl
    . rw [List.takeWhile_cons_of_pos (htext'.1 ▸ hvalue)]
      exact List.cons_ne_nil _ _
  greedy := .inl fun _ => rfl

theorem matchesFront_digitTail
    : MatchesFront digitTail (fun value => (value.text true).head?.any isDigit) where
  isSome_eq := by
    intro value after m
    obtain ⟨c, s, cut, htext, hcut, _⟩ := cutoff_text value after
    rw [hcut, htext, isSome_leading]
    unfold Decimal.leading
    cases hc : isDigit c with
    | true => simp [hc]
    | false => simp [hc]
  greedy := .inr matchHere_digitTail_space

/-- A string with some content up to its first quote, and neither a comma nor a brace in it. -/
def Json.Node.isShown : ValueNode → Bool
  | .string raw => raw.bytes ≠ [] && raw.visible.all isValueByte
  | .literal _ => false
  | .array _ _ => false
  | .object _ _ => false

theorem exists_visible (raw : Raw) (s : Bytes)
    : ∃ z, raw.bytes ++ 34 :: s = raw.visible ++ 34 :: z := by
  have hquote : (34 : UInt8) ∈ raw.bytes ++ 34 :: s := by simp
  obtain ⟨z, hz⟩ := exists_dropWhile_quote hquote
  refine ⟨z, ?_⟩
  rw [← takeWhile_visible raw s, ← hz, List.takeWhile_append_dropWhile]

theorem quote_notMem_visible (raw : Raw) : (34 : UInt8) ∉ raw.visible := by
  intro hmem
  have hne := List.mem_takeWhile_imp hmem
  simp at hne

theorem cutoff_raw {raw : Raw} (hall : raw.visible.all isValueByte = true) (s : Bytes)
    : ∃ z, cutoff (raw.bytes ++ 34 :: s) = raw.visible ++ 34 :: z := by
  obtain ⟨z, hz⟩ := exists_visible raw s
  have hquote : cutoff (34 :: z) = 34 :: cutoff z := cutoff_cons (by decide) (by decide) z
  rw [hz, cutoff_append (List.all_eq_true.mp hall), hquote]
  . exact ⟨cutoff z, rfl⟩
  . rw [hquote]
    exact .inl (List.cons_ne_nil _ _)

theorem quote_notMem_cutoff {raw : Raw} (hall : raw.visible.all isValueByte = false) (s : Bytes)
    : (34 : UInt8) ∉ cutoff (raw.bytes ++ 34 :: s) := by
  obtain ⟨z, hz⟩ := exists_visible raw s
  rw [List.all_eq_false] at hall
  obtain ⟨c, hc, hnot⟩ := hall
  have hpre := cutoff_isPrefix ⟨c, hc, by simpa using hnot⟩ (34 :: z)
  rw [hz]
  intro hmem
  exact quote_notMem_visible raw (hpre.subset hmem)

theorem matchHere_quotedTail_front (raw : Raw) (after : Bytes) (m : Match)
    : matchHere quotedTail (cutoff (quoted raw.bytes ++ after)) m
        =
      if Node.isShown (.string raw) = true then
        some (({ ({ m.push 34 with inGroup := true }.pushAll raw.visible) with inGroup := false
          } : Match).push 34)
      else
        none := by
  have hopening : matchHere quotedTail (cutoff (quoted raw.bytes ++ after)) m
      =
    matchHere quotedGroup (cutoff (raw.bytes ++ 34 :: after)) (m.push 34) := by
    have htext : quoted raw.bytes ++ after = 34 :: (raw.bytes ++ 34 :: after) := by
      simp [quoted]
    have hquote : cutoff (34 :: (raw.bytes ++ 34 :: after))
        = 34 :: cutoff (raw.bytes ++ 34 :: after) :=
      cutoff_cons (by decide) (by decide) _
    rw [htext, hquote]
    simp [quotedTail, literal, str, matchHere]
  rw [hopening]
  by_cases hnil : raw.bytes = []
  . have hempty : cutoff ([] ++ 34 :: after) = 34 :: cutoff after :=
      cutoff_cons (by decide) (by decide) after
    rw [hnil, hempty, if_neg]
    . rfl
    . simp [Node.isShown, hnil]
  . cases hall : raw.visible.all isValueByte with
    | false =>
      rw [matchHere_quotedGroup_of_notMem (quote_notMem_cutoff hall after), if_neg]
      simp [Node.isShown, hall]
    | true =>
      obtain ⟨z, hz⟩ := cutoff_raw hall after
      have hvisible : (raw.visible ++ 34 :: z).takeWhile (· ≠ 34) = raw.visible := by
        rw [takeWhile_append_of_stop (by decide), List.takeWhile_eq_self_iff]
        intro c hc
        rw [decide_eq_true_eq]
        exact ne_of_mem_of_not_mem hc (quote_notMem_visible raw)
      rw [hz, matchHere_quotedGroup (by simp), hvisible, if_pos]
      . show (decide (raw.bytes ≠ []) && raw.visible.all isValueByte) = true
        rw [hall, decide_eq_true hnil]
        rfl
      . rw [hvisible]
        exact visible_ne_nil hnil

theorem matchesFront_quotedTail : MatchesFront quotedTail Node.isShown where
  isSome_eq := by
    intro value after m
    obtain ⟨c, s, htext, _, _, hstring, _⟩ := head_of_text value
    by_cases hc : c = 34
    . obtain ⟨raw, rfl⟩ := hstring.mp hc
      rw [Node.text, matchHere_quotedTail_front]
      split
      . next h =>
        rw [h]
        rfl
      . next h =>
        rw [Bool.not_eq_true] at h
        rw [h]
        rfl
    . have hnot : value.isShown = false := by
        cases value with
        | string raw => exact absurd (hstring.mpr ⟨raw, rfl⟩) hc
        | literal atom => rfl
        | array elements close => rfl
        | object members close => rfl
      obtain ⟨b, s', cut, htext', hcut, _⟩ := cutoff_text value after
      rw [htext, List.cons.injEq] at htext'
      rw [hcut, ← htext'.1, hnot]
      show (matchHere (.one (· = 34) :: quotedGroup) (c :: cut) m).isSome = false
      rw [matchHere_one_of_ne hc]
      rfl
  greedy := .inr (not_isSpace_literal (by decide) _)

section

variable {key : Bytes} {items : List Item} {kind : ValueNode → Bool} {v value : ValueNode}

theorem inFront_eq_none (hnone : v.inFront key (fun _ => true) = none) (kind : ValueNode → Bool)
    : v.inFront key kind = none := by
  unfold Node.inFront at hnone ⊢
  rw [Option.map_eq_none_iff, List.find?_eq_none] at hnone ⊢
  intro m hm hboth
  rw [Bool.and_eq_true] at hboth
  apply hnone m hm
  rw [hboth.1]
  rfl

theorem kind_of_inFront (hsome : v.inFront key kind = some value) : kind value = true := by
  unfold Node.inFront at hsome
  rw [Option.map_eq_some_iff] at hsome
  obtain ⟨m, hfound, rfl⟩ := hsome
  have hboth := List.find?_some hfound
  rw [Bool.and_eq_true] at hboth
  exact hboth.2

theorem search_front (hkey : IsIdentifier key) (hitems : RecognisesFront items kind) (v : ValueNode)
    : FindsFront key items (v.inFront key kind) (cutoff (v.text true)) := by
  have hends : Delimits .value [] := ⟨{}, [], rfl, by simp⟩
  have hfinds := findsFront_node hkey hitems v hends fun pos => searchFrom_nil key items pos
  rwa [List.append_nil] at hfinds

theorem search_front_none (hkey : IsIdentifier key) (hitems : RecognisesFront items kind)
    (hnone : v.inFront key kind = none)
    : search (keyPattern key items) (cutoff (v.text true)) = none := by
  have hfinds := search_front hkey hitems v
  rw [hnone] at hfinds
  exact hfinds 0

theorem search_front_some (hkey : IsIdentifier key) {tail : List Item}
    (htail : MatchesFront tail kind) (hsome : v.inFront key kind = some value)
    : ∃ pos after m, Closes after ∧ m.group = [] ∧ m.inGroup = false
        ∧ search (keyPattern key (colon ++ tail)) (cutoff (v.text true))
          = (matchHere tail (cutoff (value.text true ++ after)) m).map (pos, ·) := by
  have hfinds := search_front hkey htail.recognises v
  rw [hsome] at hfinds
  obtain ⟨before, space, space', after, _, hcloses, hsearch⟩ := hfinds
  refine ⟨before.length, after,
    ((Match.pushAll {} (quote key)).pushAll (space.bytes ++ [58])).pushAll space'.bytes, hcloses,
    by simp, by simp, ?_⟩
  unfold search
  rw [hsearch, htail.behindName, Nat.zero_add]

theorem extractJsonValue_of_shown (hkey : IsIdentifier key) {raw : Raw}
    (hshown : v.inFront key Node.isShown = some (.string raw))
    : extractJsonValue (cutoff (v.text true)) key = raw.visible := by
  obtain ⟨pos, after, m, _, hgroup, hinGroup, hsearch⟩ :=
    search_front_some hkey matchesFront_quotedTail hshown
  rw [extractJsonValue_eq, memberPattern_eq hkey, hsearch, Node.text, matchHere_quotedTail_front,
    if_pos (kind_of_inFront hshown)]
  simp [Match.push, hgroup, hinGroup]

theorem extractJsonValue_of_inFront (hkey : IsIdentifier key)
    (hshown : v.inFront key Node.isShown = none)
    (hsome : v.inFront key (fun _ => true) = some value)
    : ∃ after, Closes after
        ∧ extractJsonValue (cutoff (v.text true)) key = cutoff (value.text true ++ after) := by
  obtain ⟨pos, after, m, hcloses, hgroup, _, hsearch⟩ :=
    search_front_some hkey matchesFront_bareTail hsome
  have hmatch := matchesFront_bareTail.isSome_eq value after m
  obtain ⟨m', hmatch⟩ := Option.isSome_iff_exists.mp hmatch
  refine ⟨after, hcloses, ?_⟩
  rw [extractJsonValue_eq, memberPattern_eq hkey, memberPattern_eq hkey,
    search_front_none hkey matchesFront_quotedTail.recognises hshown, hsearch, hmatch]
  show trim m'.group = _
  rw [group_of_matchHere_run hgroup hmatch, trim_takeWhile_eq_cutoff, cutoff_cutoff]
  obtain ⟨b, s, s', _, hcut, hspace⟩ := cutoff_text value after
  intro c hc
  rw [hcut, List.head?_cons, Option.mem_some] at hc
  rw [← hc]
  exact isTrimmed_of_isSpace_eq_false hspace

theorem extractJsonValue_of_inFront_none (hkey : IsIdentifier key)
    (hnone : v.inFront key (fun _ => true) = none)
    : extractJsonValue (cutoff (v.text true)) key = [] := by
  have hshown := inFront_eq_none hnone Node.isShown
  rw [extractJsonValue_eq, memberPattern_eq hkey, memberPattern_eq hkey,
    search_front_none hkey matchesFront_quotedTail.recognises hshown,
    search_front_none hkey matchesFront_bareTail.recognises hnone]

/-- What is read of the first member of a name: of a string its content up to the first quote. -/
def Json.Node.shownText : ValueNode → Bytes
  | .literal atom => atom.bytes
  | .string raw => if isShown (.string raw) = true then raw.visible else []
  | .array _ _ => []
  | .object _ _ => []

/-- The member that is read in the front: the first that is a string to be shown, or the first. -/
def Json.Node.frontMember (key : Bytes) (v : ValueNode) : Option ValueNode :=
  (v.inFront key isShown).or (v.inFront key (fun _ => true))

theorem numberOf_of_head {c : UInt8} (hc : c = 34 ∨ c = 91 ∨ c = 123) (s : Bytes)
    : numberOf (c :: s) = 0 := by
  rcases hc with rfl | rfl | rfl
  . simp [numberOf, stod, takeSign, strtod.magnitude, strtod.readNumeral, strtod.Notation.read,
      strtod.decimal, strtod.takeFraction, isSpace, isDigit, toLower, str]
  . simp [numberOf, stod, takeSign, strtod.magnitude, strtod.readNumeral, strtod.Notation.read,
      strtod.decimal, strtod.takeFraction, isSpace, isDigit, toLower, str]
  . simp [numberOf, stod, takeSign, strtod.magnitude, strtod.readNumeral, strtod.Notation.read,
      strtod.decimal, strtod.takeFraction, isSpace, isDigit, toLower, str]

theorem numberOf_cutoff {value : ValueNode} (hshown : value.isShown = false) {after : Bytes}
    (hcloses : Closes after)
    : numberOf (cutoff (value.text true ++ after)) = numberOf value.shownText := by
  have hzero : ∀ {s : Bytes} {c : UInt8}, value.text true = c :: s → c = 34 ∨ c = 91 ∨ c = 123
      → numberOf (cutoff (value.text true ++ after)) = 0 := by
    intro s c htext hc
    obtain ⟨b, s', cut, htext', hcut, _⟩ := cutoff_text value after
    rw [htext, List.cons.injEq] at htext'
    rw [hcut, ← htext'.1]
    exact numberOf_of_head hc cut
  cases value with
  | literal atom =>
    rw [Node.text, cutoff_literal, cutoff_of_closes hcloses, List.append_nil]
    rfl
  | string raw =>
    rw [hzero rfl (.inl rfl), Node.shownText, hshown]
    rfl
  | array elements close => exact hzero rfl (.inr (.inl rfl))
  | object members close => exact hzero rfl (.inr (.inr rfl))

theorem leafKey_of_notMem (hkey : (46 : UInt8) ∉ key) : leafKey key = key := by
  unfold leafKey
  rw [List.takeWhile_eq_self_iff.mpr, List.reverse_reverse]
  intro c hc
  rw [List.mem_reverse] at hc
  rw [decide_eq_true_eq]
  exact ne_of_mem_of_not_mem hc hkey

theorem unquotedNumber_of_search_none (hkey : IsIdentifier key) {text : Bytes}
    (hnone : search (keyPattern key (colon ++ digitTail)) text = none)
    : unquotedNumber text key = [] := by
  have hpattern : quotedKey key ++ colon ++ [.openGroup, .one isDigit, .many isDigit, .closeGroup]
      = keyPattern key (colon ++ digitTail) :=
    memberPattern_eq hkey digitTail
  unfold unquotedNumber
  dsimp only
  rw [hpattern, hnone]

theorem unquotedNumber_front (hkey : IsIdentifier key)
    (hnone : v.inFront key (fun _ => true) = none)
    : unquotedNumber (cutoff (v.text true)) key = [] := by
  apply unquotedNumber_of_search_none hkey
  exact search_front_none hkey matchesFront_digitTail.recognises (inFront_eq_none hnone _)

theorem isShown_eq_false (hshown : v.inFront key Node.isShown = none)
    (hsome : v.inFront key (fun _ => true) = some value)
    : value.isShown = false := by
  unfold Node.inFront at hshown hsome
  rw [Option.map_eq_none_iff, List.find?_eq_none] at hshown
  rw [Option.map_eq_some_iff] at hsome
  obtain ⟨m, hfound, rfl⟩ := hsome
  have hreads := List.find?_some hfound
  rw [Bool.and_true] at hreads
  have hnot := hshown m (List.mem_of_find?_eq_some hfound)
  rw [hreads, Bool.true_and, Bool.not_eq_true] at hnot
  exact hnot

theorem extractJsonNumber_front (hkey : IsIdentifier key) (v : ValueNode)
    : extractJsonNumber (cutoff (v.text true)) key
        =
      numberOf ((v.frontMember key).elim [] Node.shownText) := by
  have hdot : (46 : UInt8) ∉ key := hkey.notMem (by decide)
  rw [extractJsonNumber_eq, textLookup_of_notMem hdot, leafKey_of_notMem hdot]
  unfold Node.frontMember
  cases hshown : v.inFront key Node.isShown with
  | some value =>
    have hkind := kind_of_inFront hshown
    cases value with
    | string raw =>
      have hne : raw.bytes ≠ [] := by
        intro hnil
        simp [Node.isShown, hnil] at hkind
      rw [extractJsonValue_of_shown hkey hshown, if_neg (visible_ne_nil hne), Option.some_or,
        Option.elim_some, Node.shownText, if_pos hkind]
    | literal atom => contradiction
    | array elements close => contradiction
    | object members close => contradiction
  | none =>
    rw [Option.none_or]
    cases hfront : v.inFront key (fun _ => true) with
    | none =>
      rw [extractJsonValue_of_inFront_none hkey hfront, if_pos rfl, unquotedNumber_front hkey hfront]
      rfl
    | some value =>
      obtain ⟨after, hcloses, hvalue⟩ := extractJsonValue_of_inFront hkey hshown hfront
      rw [hvalue, if_neg (cutoff_text_ne_nil value after),
        numberOf_cutoff (isShown_eq_false hshown hfront) hcloses, Option.elim_some]

theorem extractJsonNumber_of_notMem (hkey : IsIdentifier key) {text : Bytes}
    (htext : (34 : UInt8) ∉ text)
    : extractJsonNumber text key = 0 := by
  have hdot : (46 : UInt8) ∉ key := hkey.notMem (by decide)
  have hnone : ∀ items, search (keyPattern key items) text = none := by
    intro items
    have hskip := @searchFrom_skip key items text htext [] 0
    rw [List.append_nil] at hskip
    unfold search
    rw [hskip, searchFrom_nil]
  have hnumber : unquotedNumber text key = [] := unquotedNumber_of_search_none hkey (hnone _)
  rw [extractJsonNumber_eq, textLookup_of_notMem hdot, leafKey_of_notMem hdot, extractJsonValue_eq,
    memberPattern_eq hkey, memberPattern_eq hkey, hnone, hnone]
  dsimp only
  rw [if_pos rfl, hnumber]
  rfl

end

end NetmonPlugins

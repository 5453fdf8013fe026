import NetmonPlugins.Common.JsonUtils.Search

/-!
This module follows the searches of the JSON lookups through a document: a search finds the first
member whose name reads the key, at any depth, whose value it has a pattern for.
-/

namespace NetmonPlugins

open Regex Json

/-- What may stand behind a value. -/
def EndsValue (rest : Bytes) : Prop :=
  ∃ blank : Blank, ∃ s, rest = blank.bytes ++ s ∧ ∀ c ∈ s.head?, c = 44 ∨ c = 125 ∨ c = 93

/-- What may stand behind a member of an object. -/
def Closes (rest : Bytes) : Prop :=
  ∃ blank : Blank, ∃ c s, rest = blank.bytes ++ c :: s ∧ (c = 44 ∨ c = 125)

def Delimits : Shape → Bytes → Prop
  | .value, rest => EndsValue rest
  | .elements, rest => EndsValue rest
  | .members, rest => Closes rest

def behindName (colon space : Blank) (text : Bytes) : Bytes :=
  colon.bytes ++ 58 :: (space.bytes ++ text)

/-- What the pattern has behind the quoted key matches behind the names of the values of one kind,
and behind no value. -/
structure Recognises (items : List Item) (kind : ValueNode → Bool) : Prop where
  eq_none : ∀ (rest : Bytes) (m : Match), EndsValue rest → matchHere items rest m = none
  isSome_eq : ∀ (colon space : Blank) (value : ValueNode) (after : Bytes) (m : Match), Closes after
    → (matchHere items (behindName colon space (value.text true ++ after)) m).isSome = kind value

/-- What a search comes to in a text that begins with a part of a document: it matches at the member
that is found there, or it goes on behind this part. -/
def Finds (key : Bytes) (items : List Item) (found : Option ValueNode) (text rest : Bytes) : Prop :=
  match found with
  | some value =>
    ∃ before colon space after, text ++ rest
          = before ++ (quote key ++ behindName colon space (value.text true ++ after))
        ∧ Closes after
        ∧ ∀ pos, searchFrom (keyPattern key items) (text ++ rest) pos
          = (matchHere items (behindName colon space (value.text true ++ after))
            (Match.pushAll {} (quote key))).map (pos + before.length, ·)
  | none =>
    ∀ pos, searchFrom (keyPattern key items) (text ++ rest) pos
      = searchFrom (keyPattern key items) rest (pos + text.length)

theorem Closes.ends {rest : Bytes} (h : Closes rest) : EndsValue rest := by
  obtain ⟨blank, c, s, hrest, hc⟩ := h
  refine ⟨blank, c :: s, hrest, ?_⟩
  intro b hb
  rw [List.head?_cons, Option.mem_some] at hb
  rw [← hb, ← or_assoc]
  exact .inl hc

theorem ends_closing (close : Blank) {c : UInt8} (hc : c = 125 ∨ c = 93) (rest : Bytes)
    : EndsValue (close.bytes ++ c :: rest) := by
  refine ⟨close, c :: rest, rfl, ?_⟩
  intro b hb
  rw [List.head?_cons, Option.mem_some] at hb
  rw [← hb]
  exact .inr hc

theorem ends_text (elements : Node .elements) {rest : Bytes} (h : EndsValue rest)
    : EndsValue (elements.text false ++ rest) := by
  cases elements with
  | noElements => exact h
  | element comma lead head tail =>
    refine ⟨comma, 44 :: (lead.bytes ++ (head.text true ++ (tail.text false ++ rest))), ?_, ?_⟩
    . simp [Node.text, Blank.separator]
    . simp

theorem closes_text (members : Node .members) {rest : Bytes} (h : Closes rest)
    : Closes (members.text false ++ rest) := by
  cases members with
  | noMembers => exact h
  | member comma lead name colon space value members =>
    refine ⟨comma, 44, lead.bytes
      ++ (quoted name.bytes ++ (behindName colon space
        (value.text true ++ (members.text false ++ rest)))), ?_, .inl rfl⟩
    simp [Node.text, Blank.separator, behindName]

section

variable {key : Bytes} {items : List Item} {kind : ValueNode → Bool}
variable {found found' : Option ValueNode} {text text' rest : Bytes}

theorem Finds.skip {skipped : Bytes}
    (hskip : ∀ pos, searchFrom (keyPattern key items) (skipped ++ (text ++ rest)) pos
      = searchFrom (keyPattern key items) (text ++ rest) (pos + skipped.length))
    (h : Finds key items found text rest)
    : Finds key items found (skipped ++ text) rest := by
  cases found with
  | none =>
    intro pos
    rw [List.append_assoc, hskip, h, List.length_append, Nat.add_assoc]
  | some value =>
    obtain ⟨before, colon, space, after, htext, hcloses, hsearch⟩ := h
    refine ⟨skipped ++ before, colon, space, after, ?_, hcloses, ?_⟩
    . rw [List.append_assoc, htext, List.append_assoc]
    . intro pos
      rw [List.append_assoc, hskip, hsearch, List.length_append, Nat.add_assoc]

theorem Finds.or (h : Finds key items found text (text' ++ rest))
    (h' : Finds key items found' text' rest)
    : Finds key items (found.or found') (text ++ text') rest := by
  cases found with
  | none => exact h'.skip h
  | some value =>
    obtain ⟨before, colon, space, after, htext, hcloses, hsearch⟩ := h
    rw [← List.append_assoc] at htext
    simp only [← List.append_assoc] at hsearch
    exact ⟨before, colon, space, after, htext, hcloses, hsearch⟩

theorem finds_nil : Finds key items none [] rest := by
  intro pos
  rfl

theorem finds_of_notMem (h : (34 : UInt8) ∉ text) : Finds key items none text rest := by
  intro pos
  apply searchFrom_skip h

theorem Json.Blank.notMem (blank : Blank) {c : UInt8} (hc : isBlank c = false) : c ∉ blank.bytes := by
  intro hmem
  rw [blank.blank c hmem] at hc
  contradiction

theorem isIdentifierByte_head (blank : Blank)
    (htext : ∀ c ∈ text.head?, isIdentifierByte c = false)
    : ∀ c ∈ (blank.bytes ++ text).head?, isIdentifierByte c = false := by
  cases hbytes : blank.bytes with
  | nil => exact htext
  | cons b bytes =>
    intro c hc
    rw [List.cons_append, List.head?_cons, Option.mem_some] at hc
    rw [← hc]
    have hb := blank.blank b (by simp [hbytes])
    unfold isBlank at hb
    unfold isIdentifierByte
    grind

theorem EndsValue.isIdentifierByte_head (h : EndsValue rest)
    : ∀ c ∈ rest.head?, isIdentifierByte c = false := by
  obtain ⟨blank, s, rfl, hs⟩ := h
  apply NetmonPlugins.isIdentifierByte_head
  intro c hc
  obtain rfl | rfl | rfl := hs c hc
  . rfl
  . rfl
  . rfl

theorem isIdentifierByte_behindName (colon space : Blank) (text : Bytes)
    : ∀ c ∈ (behindName colon space text).head?, isIdentifierByte c = false := by
  apply isIdentifierByte_head
  intro c hc
  rw [List.head?_cons, Option.mem_some] at hc
  rw [← hc]
  rfl

theorem finds_string (hkey : IsIdentifier key) (hitems : Recognises items kind) (raw : Raw)
    (hrest : EndsValue rest)
    : Finds key items none (quoted raw.bytes) rest := by
  intro pos
  apply searchFrom_string hkey raw hrest.isIdentifierByte_head
  intro _
  apply hitems.eq_none _ _ hrest

theorem finds_name (hkey : IsIdentifier key) (hitems : Recognises items kind) (name : Raw)
    (colon space : Blank) (value : ValueNode) (hrest : Closes rest)
    : Finds key items (if name.Reads key ∧ kind value = true then some value else none)
        (quoted name.bytes) (behindName colon space (value.text true ++ rest)) := by
  have hhead := isIdentifierByte_behindName colon space (value.text true ++ rest)
  have hsome := hitems.isSome_eq colon space value rest (Match.pushAll {} (quote key)) hrest
  split
  . next h =>
    rw [h.2] at hsome
    obtain ⟨before, htext, _⟩ := searchFrom_string_of_reads hkey h.1 hsome 0
    refine ⟨before, colon, space, rest, htext, hrest, ?_⟩
    intro pos
    obtain ⟨before', htext', hsearch⟩ := searchFrom_string_of_reads hkey h.1 hsome pos
    rw [htext] at htext'
    rw [List.append_cancel_right htext', hsearch]
  . next h =>
    intro pos
    apply searchFrom_string hkey name hhead
    intro hreads
    rw [← Option.not_isSome_iff_eq_none, hsome]
    intro hkind
    exact h ⟨hreads, hkind⟩

theorem firstNamed_element (comma lead : Blank) (head : ValueNode) (elements : Node .elements)
    : (Node.element comma lead head elements).firstNamed key kind
        =
      (head.firstNamed key kind).or (elements.firstNamed key kind) := by
  simp [Node.firstNamed, Node.members, List.find?_append, Option.map_or]

theorem firstNamed_member (comma lead colon space : Blank) (name : Raw) (value : ValueNode)
    (members : Node .members)
    : (Node.member comma lead name colon space value members).firstNamed key kind
        =
      (if name.Reads key ∧ kind value = true then some value else none).or
        ((value.firstNamed key kind).or (members.firstNamed key kind)) := by
  unfold Node.firstNamed
  rw [Node.members, List.find?_cons]
  split
  . next h =>
    rw [Bool.and_eq_true, decide_eq_true_eq] at h
    simp [h]
  . next h =>
    rw [Bool.and_eq_false_iff, decide_eq_false_iff_not] at h
    have hnot : ¬ (name.Reads key ∧ kind value = true) := by
      rintro ⟨hreads, hkind⟩
      rcases h with h | h
      . exact h hreads
      . rw [hkind] at h
        contradiction
    simp [hnot, List.find?_append, Option.map_or]

theorem quote_notMem_separator (comma lead : Blank) (first : Bool)
    : (34 : UInt8) ∉ comma.separator first ++ lead.bytes := by
  have hcomma := comma.notMem (c := 34) (by decide)
  have hlead := lead.notMem (c := 34) (by decide)
  cases first with
  | true => simp [Blank.separator, hlead]
  | false => simp [Blank.separator, hcomma, hlead]

theorem quote_notMem_colon (colon space : Blank)
    : (34 : UInt8) ∉ colon.bytes ++ 58 :: space.bytes := by
  have hcolon := colon.notMem (c := 34) (by decide)
  have hspace := space.notMem (c := 34) (by decide)
  simp [hcolon, hspace]

theorem behindName_eq (colon space : Blank) (text : Bytes)
    : behindName colon space text = (colon.bytes ++ 58 :: space.bytes) ++ text := by
  simp [behindName]

theorem text_element_append (comma lead : Blank) (head : ValueNode) (elements : Node .elements)
    (first : Bool) (rest : Bytes)
    : (Node.element comma lead head elements).text first ++ rest
        =
      (comma.separator first ++ lead.bytes)
        ++ (head.text true ++ (elements.text false ++ rest)) := by
  simp [Node.text]

theorem text_member_append (comma lead colon space : Blank) (name : Raw) (value : ValueNode)
    (members : Node .members) (first : Bool) (rest : Bytes)
    : (Node.member comma lead name colon space value members).text first ++ rest
        =
      (comma.separator first ++ lead.bytes) ++ (quoted name.bytes
        ++ behindName colon space (value.text true ++ (members.text false ++ rest))) := by
  simp [Node.text, behindName]

theorem bracket_append (close : Blank) (opening closing : UInt8) (text rest : Bytes)
    : opening :: (text ++ (close.bytes ++ [closing])) ++ rest
        =
      [opening] ++ (text ++ ((close.bytes ++ [closing]) ++ rest)) := by
  simp

theorem quote_notMem_closing (close : Blank) {closing : UInt8} (hclosing : closing ≠ 34)
    : (34 : UInt8) ∉ close.bytes ++ [closing] := by
  have hclose := close.notMem (c := 34) (by decide)
  simp [hclose, hclosing.symm]

theorem finds_bracket (close : Blank) {opening closing : UInt8}
    (hopening : opening ≠ 34) (hclosing : closing ≠ 34)
    (h : Finds key items found text (close.bytes ++ closing :: rest))
    : Finds key items found (opening :: (text ++ (close.bytes ++ [closing]))) rest := by
  have hopen : Finds key items none [opening] (text ++ (close.bytes ++ [closing]) ++ rest) :=
    finds_of_notMem (by simp [hopening.symm])
  have hend : Finds key items none (close.bytes ++ [closing]) rest :=
    finds_of_notMem (quote_notMem_closing close hclosing)
  have hrest : close.bytes ++ closing :: rest = close.bytes ++ [closing] ++ rest := by simp
  rw [hrest] at h
  have hall := hopen.or (h.or hend)
  rwa [Option.none_or, Option.or_none, List.singleton_append] at hall

theorem finds_node (hkey : IsIdentifier key) (hitems : Recognises items kind) {shape : Shape}
    (v : Node shape) (first : Bool) (hrest : Delimits shape rest)
    : Finds key items (v.firstNamed key kind) (v.text first) rest := by
  induction v generalizing first rest with
  | literal atom =>
    apply finds_of_notMem
    intro hmem
    have hplain := atom.plain _ hmem
    revert hplain
    decide
  | string raw => exact finds_string hkey hitems raw hrest
  | array elements close ih =>
    exact finds_bracket close (by decide) (by decide)
      (ih true (ends_closing close (.inr rfl) rest))
  | object members close ih =>
    exact finds_bracket close (by decide) (by decide)
      (ih true ⟨close, 125, rest, rfl, .inr rfl⟩)
  | noElements => exact finds_nil
  | element comma lead head elements ihHead ihElements =>
    rw [firstNamed_element, Node.text, ← List.append_assoc, ← Option.none_or (o := Option.or _ _)]
    apply (finds_of_notMem (quote_notMem_separator comma lead first)).or
    apply (ihHead true (ends_text elements hrest)).or
    exact ihElements false hrest
  | noMembers => exact finds_nil
  | member comma lead name colon space value members ihValue ihMembers =>
    have hafter := closes_text members hrest
    have htext : (Node.member comma lead name colon space value members).text first
        = (comma.separator first ++ lead.bytes) ++ (quoted name.bytes
          ++ ((colon.bytes ++ 58 :: space.bytes) ++ (value.text true ++ members.text false))) := by
      simp [Node.text]
    rw [firstNamed_member, htext, ← Option.none_or (o := Option.or _ _)]
    apply (finds_of_notMem (quote_notMem_separator comma lead first)).or
    rw [← Option.none_or (o := Option.or (value.firstNamed key kind) _)]
    have hname := finds_name hkey hitems name colon space value hafter
    rw [behindName_eq, ← List.append_assoc, ← List.append_assoc,
      List.append_assoc (colon.bytes ++ 58 :: space.bytes)] at hname
    apply hname.or
    apply (finds_of_notMem (quote_notMem_colon colon space)).or
    apply (ihValue true hafter.ends).or
    exact ihMembers false hrest

end

end NetmonPlugins

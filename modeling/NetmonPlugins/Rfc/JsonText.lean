import NetmonPlugins.Rfc.Json

/-!
This module contains JSON texts as they are written: with the blanks between their tokens and with
the escapes in their strings.
-/

namespace NetmonPlugins
namespace Json

def isEscaped : Bytes → Bool
  | [] => true
  | 92 :: text =>
    match text with
    | [] => false
    | _ :: text => isEscaped text
  | c :: text => c ≠ 34 && isEscaped text

/-- The content of a string as it is written, where a quote stands only behind a backslash. -/
structure Raw where
  bytes : Bytes
  escaped : isEscaped bytes = true

def Literal.ofPlain (bytes : Bytes) (hne : bytes ≠ []) (hplain : bytes.all isLiteralByte = true)
    : Literal where
  bytes := bytes
  ne_nil := hne
  plain := List.all_eq_true.mp hplain

theorem isBlank_nil : ∀ c ∈ ([] : Bytes), isBlank c = true := List.forall_mem_nil _

structure Blank where
  bytes : Bytes := []
  blank : ∀ c ∈ bytes, isBlank c = true := by exact isBlank_nil

def quoted (content : Bytes) : Bytes := 34 :: (content ++ [34])

/-- The string ends like a string whose whole content is the key. -/
def Raw.Reads (key : Bytes) (raw : Raw) : Prop := 34 :: key <:+ 34 :: raw.bytes

instance (key : Bytes) (raw : Raw) : Decidable (raw.Reads key) :=
  inferInstanceAs (Decidable (34 :: key <:+ 34 :: raw.bytes))

-- The blanks of an element or a member stand in front of its tokens.
inductive Node : Shape → Type where
  | literal (atom : Literal) : Node .value
  | string (raw : Raw) : Node .value
  | array (elements : Node .elements) (close : Blank) : Node .value
  | object (members : Node .members) (close : Blank) : Node .value
  | noElements : Node .elements
  | element (comma lead : Blank) (head : Node .value) (tail : Node .elements) : Node .elements
  | noMembers : Node .members
  | member (comma lead : Blank) (name : Raw) (colon space : Blank) (value : Node .value)
      (rest : Node .members) : Node .members

abbrev ValueNode := Node .value

def Blank.separator (comma : Blank) (first : Bool) : Bytes :=
  if first then [] else comma.bytes ++ [44]

/-- An element or a member that is not the first begins with a comma. -/
def Node.text (first : Bool) : Node shape → Bytes
  | .literal atom => atom.bytes
  | .string raw => quoted raw.bytes
  | .array elements close => 91 :: (elements.text true ++ (close.bytes ++ [93]))
  | .object members close => 123 :: (members.text true ++ (close.bytes ++ [125]))
  | .noElements => []
  | .element comma lead head tail =>
    comma.separator first ++ (lead.bytes ++ (head.text true ++ tail.text false))
  | .noMembers => []
  | .member comma lead name colon space value rest =>
    comma.separator first
      ++ (lead.bytes
        ++ (quoted name.bytes
          ++ (colon.bytes ++ (58 :: (space.bytes ++ (value.text true ++ rest.text false))))))

structure Document where
  lead : Blank := {}
  value : ValueNode
  trail : Blank := {}

def Document.text (document : Document) : Bytes :=
  document.lead.bytes ++ (document.value.text true ++ document.trail.bytes)

/-- The members of all objects, in the order of the text. -/
def Node.members : Node shape → List (Raw × ValueNode)
  | .literal _ => []
  | .string _ => []
  | .array elements _ => elements.members
  | .object members _ => members.members
  | .noElements => []
  | .element _ _ head tail => head.members ++ tail.members
  | .noMembers => []
  | .member _ _ name _ _ value rest => (name, value) :: (value.members ++ rest.members)

/-- All strings, names and values, in the order of the text. -/
def Node.strings : Node shape → List Raw
  | .literal _ => []
  | .string raw => [raw]
  | .array elements _ => elements.strings
  | .object members _ => members.strings
  | .noElements => []
  | .element _ _ head tail => head.strings ++ tail.strings
  | .noMembers => []
  | .member _ _ name _ _ value rest => name :: (value.strings ++ rest.strings)

def Node.values : Node shape → List ValueNode
  | .noElements => []
  | .element _ _ head tail => head :: tail.values
  | .literal _ => []
  | .string _ => []
  | .array _ _ => []
  | .object _ _ => []
  | .noMembers => []
  | .member _ _ _ _ _ _ _ => []

/-- The members between the braces, without those of their values. -/
def Node.entries : Node shape → List (Raw × ValueNode)
  | .noMembers => []
  | .member _ _ name _ _ value rest => (name, value) :: rest.entries
  | .literal _ => []
  | .string _ => []
  | .array _ _ => []
  | .object _ _ => []
  | .noElements => []
  | .element _ _ _ _ => []

def Node.ownMembers : ValueNode → List (Raw × ValueNode)
  | .object members _ => members.entries
  | .literal _ => []
  | .string _ => []
  | .array _ _ => []

def Node.append : Node shape → Node .members → Node shape
  | .noMembers, others => others
  | .member comma lead name colon space value rest, others =>
    .member comma lead name colon space value (rest.append others)
  | .literal atom, _ => .literal atom
  | .string raw, _ => .string raw
  | .array elements close, _ => .array elements close
  | .object members close, _ => .object members close
  | .noElements, _ => .noElements
  | .element comma lead head tail, _ => .element comma lead head tail

/-- The arrays that stand in no other array. -/
def Node.lists : Node shape → List (Node .elements)
  | .literal _ => []
  | .string _ => []
  | .array elements _ => [elements]
  | .object members _ => members.lists
  | .noElements => []
  | .element _ _ head tail => head.lists ++ tail.lists
  | .noMembers => []
  | .member _ _ _ _ _ value rest => value.lists ++ rest.lists

/-- The strings that stand in no array. -/
def Node.outside : Node shape → List Raw
  | .literal _ => []
  | .string raw => [raw]
  | .array _ _ => []
  | .object members _ => members.outside
  | .noElements => []
  | .element _ _ head tail => head.outside ++ tail.outside
  | .noMembers => []
  | .member _ _ name _ _ value rest => name :: (value.outside ++ rest.outside)

/-- The value of the first member whose name reads the key, at any depth, of the wanted kind. -/
def Node.firstNamed (key : Bytes) (kind : ValueNode → Bool) (v : Node shape) : Option ValueNode :=
  (v.members.find? fun m => m.1.Reads key && kind m.2).map (·.2)

def Node.isObject : ValueNode → Bool
  | .object _ _ => true
  | .literal _ => false
  | .string _ => false
  | .array _ _ => false

def Node.isFilled : ValueNode → Bool
  | .string raw => raw.bytes ≠ []
  | .literal _ => false
  | .array _ _ => false
  | .object _ _ => false

/-- The members of an object, in any order. -/
def Node.IsObjectOf (members : List (Raw × ValueNode)) (value : ValueNode) : Prop :=
  value.isObject = true ∧ value.ownMembers.Perm members

def Node.IsArrayOf (values : List ValueNode) (value : ValueNode) : Prop :=
  ∃ elements close, value = .array elements close ∧ elements.values = values

theorem isEscaped_of_plain {bytes : Bytes} (h : ∀ c ∈ bytes, c ≠ 34 ∧ c ≠ 92)
    : isEscaped bytes = true := by
  induction bytes with
  | nil => rfl
  | cons c bytes ih =>
    rw [List.forall_mem_cons] at h
    unfold isEscaped
    split
    . rfl
    . next heq => exact absurd (List.cons.inj heq).1 h.1.2
    . next heq =>
      obtain ⟨rfl, rfl⟩ := List.cons.inj heq
      rw [ih h.2, decide_eq_true h.1.1]
      rfl

theorem isEscaped_cons {c : UInt8} (hc : c ≠ 92) (text : Bytes)
    : isEscaped (c :: text) = (c ≠ 34 && isEscaped text) := by
  rw [isEscaped]
  intro h
  exact absurd h hc

theorem backslash_of_isEscaped {before after : Bytes} (h : isEscaped (before ++ 34 :: after) = true)
    : ∃ before', before = before' ++ [92] := by
  induction before using List.twoStepInduction with
  | nil =>
    rw [List.nil_append, isEscaped_cons (by decide)] at h
    contradiction
  | singleton c =>
    by_cases hc : c = 92
    . exact ⟨[], by rw [hc]; rfl⟩
    . rw [List.singleton_append, isEscaped_cons hc, isEscaped_cons (by decide)] at h
      simp at h
  | cons_cons c d before ih₂ ih₁ =>
    by_cases hc : c = 92
    . rw [hc] at h
      obtain ⟨before', hbefore'⟩ := ih₂ h
      exact ⟨c :: d :: before', by rw [hbefore']; rfl⟩
    . rw [List.cons_append, isEscaped_cons hc, Bool.and_eq_true] at h
      obtain ⟨before', hbefore'⟩ := ih₁ d h.2
      exact ⟨c :: before', by rw [hbefore']; rfl⟩

theorem reads_iff_of_notMem {key : Bytes} {raw : Raw} (h : (34 : UInt8) ∉ raw.bytes)
    : raw.Reads key ↔ raw.bytes = key := by
  unfold Raw.Reads
  rw [List.suffix_cons_iff]
  constructor
  . rintro (heq | hsuffix)
    . exact (List.cons.inj heq).2.symm
    . exact absurd (hsuffix.subset List.mem_cons_self) h
  . intro heq
    exact .inl (by rw [heq])

theorem Node.exists_of_firstNamed {shape : Shape} {v : Node shape} {key : Bytes}
    {kind : ValueNode → Bool} {value : ValueNode} (h : v.firstNamed key kind = some value)
    : ∃ name, (name, value) ∈ v.members ∧ name.Reads key ∧ kind value = true := by
  obtain ⟨name, hmem, hkind⟩ := exists_of_map_find? h
  rw [Bool.and_eq_true, decide_eq_true_eq] at hkind
  exact ⟨name, hmem, hkind⟩

theorem Node.firstNamed_eq_none_iff {shape : Shape} {v : Node shape} {key : Bytes}
    {kind : ValueNode → Bool}
    : v.firstNamed key kind = none
        ↔
      ∀ m ∈ v.members, m.1.Reads key → kind m.2 = false := by
  unfold firstNamed
  rw [Option.map_eq_none_iff, List.find?_eq_none]
  simp

theorem Node.name_mem_strings {shape : Shape} {v : Node shape} {m : Raw × ValueNode}
    (h : m ∈ v.members)
    : m.1 ∈ v.strings := by
  induction v with
  | literal atom => contradiction
  | string raw => contradiction
  | array elements close ih => exact ih h
  | object members close ih => exact ih h
  | noElements => contradiction
  | element comma lead head tail ihHead ihTail =>
    rcases List.mem_append.mp h with h | h
    . exact List.mem_append_left _ (ihHead h)
    . exact List.mem_append_right _ (ihTail h)
  | noMembers => contradiction
  | member comma lead name colon space value rest ihValue ihRest =>
    rcases List.mem_cons.mp h with rfl | h
    . exact List.mem_cons_self
    . apply List.mem_cons_of_mem
      rcases List.mem_append.mp h with h | h
      . exact List.mem_append_left _ (ihValue h)
      . exact List.mem_append_right _ (ihRest h)

theorem Document.text_ne_nil (document : Document) : document.text ≠ [] := by
  have hvalue : document.value.text true ≠ [] := by
    cases document.value with
    | literal atom => exact atom.ne_nil
    | string raw => exact List.cons_ne_nil _ _
    | array elements close => exact List.cons_ne_nil _ _
    | object members close => exact List.cons_ne_nil _ _
  unfold text
  simp [hvalue]

theorem Node.strings_elements (elements : Node .elements)
    : elements.strings = elements.values.flatMap Node.strings := by
  match elements with
  | .noElements => rfl
  | .element comma lead head tail =>
    rw [strings, values, List.flatMap_cons, tail.strings_elements]

theorem Node.strings_members (members : Node .members)
    : members.strings = members.entries.flatMap fun m => m.1 :: m.2.strings := by
  match members with
  | .noMembers => rfl
  | .member comma lead name colon space value rest =>
    rw [strings, entries, List.flatMap_cons, rest.strings_members]
    rfl

theorem Node.text_append (first : Bool) (members others : Node .members)
    : (members.append others).text first
        =
      members.text first ++ others.text (first && members.entries.isEmpty) := by
  match members with
  | .noMembers =>
    rw [append, text, List.nil_append, entries, List.isEmpty_nil, Bool.and_true]
  | .member comma lead name colon space value rest =>
    have hrest : (false && rest.entries.isEmpty) = false := rfl
    rw [append, text, rest.text_append, text, entries, List.isEmpty_cons, Bool.and_false, hrest]
    simp only [List.append_assoc, List.cons_append]

theorem Node.strings_of_isObject {value : ValueNode} (h : value.isObject = true)
    : value.strings = value.ownMembers.flatMap fun m => m.1 :: m.2.strings := by
  cases value with
  | object members close => exact members.strings_members
  | literal atom => contradiction
  | string raw => contradiction
  | array elements close => contradiction

theorem Node.IsObjectOf.countP_strings {members : List (Raw × ValueNode)} {value : ValueNode}
    (h : value.IsObjectOf members) (p : Raw → Bool)
    : value.strings.countP p = (members.flatMap fun m => m.1 :: m.2.strings).countP p := by
  rw [strings_of_isObject h.1]
  exact (h.2.flatMap_right _).countP_eq p

theorem Node.IsArrayOf.strings_eq {values : List ValueNode} {value : ValueNode}
    (h : value.IsArrayOf values)
    : value.strings = values.flatMap strings := by
  obtain ⟨elements, close, rfl, rfl⟩ := h
  exact elements.strings_elements

theorem Node.countP_strings (p : Raw → Bool) {shape : Shape} (v : Node shape)
    : v.strings.countP p = v.outside.countP p + (v.lists.flatMap Node.strings).countP p := by
  induction v with
  | literal atom => rfl
  | string raw => rfl
  | array elements close ih => simp [strings, outside, lists]
  | object members close ih => exact ih
  | noElements => rfl
  | element comma lead head tail ihHead ihTail =>
    simp only [strings, outside, lists, List.countP_append, List.flatMap_append, ihHead, ihTail]
    omega
  | noMembers => rfl
  | member comma lead name colon space value rest ihValue ihRest =>
    simp only [strings, outside, lists, List.countP_cons, List.countP_append, List.flatMap_append,
      ihValue, ihRest]
    omega

theorem Node.firstNamed_of_unique {shape : Shape} {v : Node shape} {key : Bytes}
    {kind : ValueNode → Bool} {name : Raw} {value : ValueNode} (hmem : (name, value) ∈ v.members)
    (hreads : name.Reads key) (hkind : kind value = true)
    (hunique : ∀ m ∈ v.members, m.1.Reads key → m.2 = value)
    : v.firstNamed key kind = some value := by
  cases hfirst : v.firstNamed key kind with
  | none =>
    rw [firstNamed_eq_none_iff.mp hfirst _ hmem hreads] at hkind
    contradiction
  | some value' =>
    obtain ⟨name', hmem', hreads', _⟩ := exists_of_firstNamed hfirst
    exact congrArg some (hunique _ hmem' hreads')

end Json
end NetmonPlugins

import NetmonPlugins.Cxx.Bytes

/-!
This module contains JSON documents whose strings have neither quotes, backslashes nor braces: their
tokens, how the tokens may be laid out as a text, and the lookup of a path of names.
-/

namespace NetmonPlugins
namespace Json

def isBlank (c : UInt8) : Bool := c = 32 || c = 9 || c = 10 || c = 13

/-- What numbers, `true`, `false` and `null` are written with. -/
def isLiteralByte (c : UInt8) : Bool :=
  (48 ≤ c && c ≤ 57) || (65 ≤ c && c ≤ 90) || (97 ≤ c && c ≤ 122) || c = 43 || c = 45 || c = 46

structure Text where
  bytes : Bytes
  ne_nil : bytes ≠ []
  plain : ∀ c ∈ bytes, c ≠ 34 ∧ c ≠ 92 ∧ c ≠ 123 ∧ c ≠ 125

structure Literal where
  bytes : Bytes
  ne_nil : bytes ≠ []
  plain : ∀ c ∈ bytes, isLiteralByte c = true

def Text.ofPlain (bytes : Bytes) (hne : bytes ≠ [])
    (hplain : bytes.all fun c => c ≠ 34 && c ≠ 92 && c ≠ 123 && c ≠ 125) : Text where
  bytes := bytes
  ne_nil := hne
  plain := by
    intro c hc
    have hc' := List.all_eq_true.mp hplain c hc
    simp only [Bool.and_eq_true, decide_eq_true_eq] at hc'
    exact ⟨hc'.1.1.1, hc'.1.1.2, hc'.1.2, hc'.2⟩

inductive Shape where
  | value
  | elements
  | members

-- One type for the three, so that one induction goes through all of a document.
inductive Tree : Shape → Type where
  | literal (atom : Literal) : Tree .value
  | string (text : Text) : Tree .value
  | array (elements : Tree .elements) : Tree .value
  | object (members : Tree .members) : Tree .value
  | noElements : Tree .elements
  | element (head : Tree .value) (tail : Tree .elements) : Tree .elements
  | noMembers : Tree .members
  | member (name : Text) (value : Tree .value) (rest : Tree .members) : Tree .members

abbrev Value := Tree .value

inductive Token where
  | openBrace
  | closeBrace
  | openBracket
  | closeBracket
  | colon
  | comma
  | string (text : Text)
  | literal (atom : Literal)

def Token.bytes : Token → Bytes
  | .openBrace => [123]
  | .closeBrace => [125]
  | .openBracket => [91]
  | .closeBracket => [93]
  | .colon => [58]
  | .comma => [44]
  | .string text => [34] ++ text.bytes ++ [34]
  | .literal atom => atom.bytes

def separator (first : Bool) : List Token := if first then [] else [.comma]

/-- The tokens of an element or a member that is not the first begin with a comma. -/
def Tree.tokens (first : Bool) : Tree shape → List Token
  | .literal atom => [.literal atom]
  | .string text => [.string text]
  | .array elements => .openBracket :: (elements.tokens true ++ [.closeBracket])
  | .object members => .openBrace :: (members.tokens true ++ [.closeBrace])
  | .noElements => []
  | .element head tail => separator first ++ (head.tokens true ++ tail.tokens false)
  | .noMembers => []
  | .member name value rest =>
    separator first ++ (.string name :: .colon :: (value.tokens true ++ rest.tokens false))

/-- Blanks may stand between tokens and at both ends of the text. -/
inductive Layout : List Token → Bytes → Prop where
  | nil (space : Bytes) (hspace : ∀ c ∈ space, isBlank c = true) : Layout [] space
  | cons (space : Bytes) (hspace : ∀ c ∈ space, isBlank c = true) (token : Token)
      {tokens : List Token} {text : Bytes} (h : Layout tokens text)
      : Layout (token :: tokens) (space ++ (token.bytes ++ text))

/-- The members of all objects of the document, in the order of the text. -/
def Tree.members : Tree shape → List (Text × Value)
  | .literal _ => []
  | .string _ => []
  | .array elements => elements.members
  | .object members => members.members
  | .noElements => []
  | .element head tail => head.members ++ tail.members
  | .noMembers => []
  | .member name value rest => (name, value) :: (value.members ++ rest.members)

/-- The value of the first member of this name, at any depth, that is of the wanted kind. -/
def Tree.firstNamed (key : Bytes) (kind : Value → Bool) (v : Tree shape) : Option Value :=
  (v.members.find? fun m => m.1.bytes = key && kind m.2).map (·.2)

/-- The value of the first member of this name that the object itself has. -/
def Tree.get (key : Bytes) : Tree shape → Option Value
  | .object members => members.get key
  | .member name value rest => if name.bytes = key then some value else rest.get key
  | .literal _ => none
  | .string _ => none
  | .array _ => none
  | .noElements => none
  | .element _ _ => none
  | .noMembers => none

def Tree.isScalar : Value → Bool
  | .literal _ => true
  | .string _ => true
  | .array _ => false
  | .object _ => false

def Tree.isString : Value → Bool
  | .string _ => true
  | .literal _ => false
  | .array _ => false
  | .object _ => false

def Tree.isObject : Value → Bool
  | .object _ => true
  | .literal _ => false
  | .string _ => false
  | .array _ => false

/-- The content of a string or the text of a literal. -/
def Tree.scalar : Value → Bytes
  | .literal atom => atom.bytes
  | .string text => text.bytes
  | .array _ => []
  | .object _ => []

/-- The scalar at the end of the path, or nothing where the path does not lead to a scalar. -/
def Tree.lookup (v : Value) : List Bytes → Bytes
  | [] => v.scalar
  | key :: keys =>
    match v.get key with
    | some value => value.lookup keys
    | none => []

theorem layout_cons_iff {token : Token} {tokens : List Token} {text : Bytes}
    : Layout (token :: tokens) text
        ↔
      ∃ space text', (∀ c ∈ space, isBlank c = true) ∧ Layout tokens text'
        ∧ text = space ++ (token.bytes ++ text') := by
  constructor
  . intro h
    cases h with
    | cons space hspace token h => exact ⟨space, _, hspace, h, rfl⟩
  . rintro ⟨space, text', hspace, h, rfl⟩
    exact .cons space hspace token h

theorem Layout.blank_append {tokens : List Token} {text space : Bytes}
    (hspace : ∀ c ∈ space, isBlank c = true) (h : Layout tokens text)
    : Layout tokens (space ++ text) := by
  cases h with
  | nil space' hspace' =>
    apply Layout.nil
    rw [List.forall_mem_append]
    exact ⟨hspace, hspace'⟩
  | cons space' hspace' token h =>
    rw [← List.append_assoc]
    apply Layout.cons
    . rw [List.forall_mem_append]
      exact ⟨hspace, hspace'⟩
    . exact h

theorem Layout.append {tokens tokens' : List Token} {text text' : Bytes} (h : Layout tokens text)
    (h' : Layout tokens' text')
    : Layout (tokens ++ tokens') (text ++ text') := by
  induction h with
  | nil space hspace => exact h'.blank_append hspace
  | cons space hspace token h ih =>
    rw [List.append_assoc, List.append_assoc]
    exact .cons space hspace token ih

theorem Layout.split {tokens tokens' : List Token} {text : Bytes}
    (h : Layout (tokens ++ tokens') text)
    : ∃ before after, text = before ++ after ∧ Layout tokens before ∧ Layout tokens' after := by
  induction tokens generalizing text with
  | nil => exact ⟨[], text, rfl, .nil [] (by simp), h⟩
  | cons token tokens ih =>
    rw [List.cons_append, layout_cons_iff] at h
    obtain ⟨space, text', hspace, h, rfl⟩ := h
    obtain ⟨before, after, rfl, hbefore, hafter⟩ := ih h
    refine ⟨space ++ (token.bytes ++ before), after, ?_, .cons space hspace token hbefore, hafter⟩
    simp only [List.append_assoc]

theorem layout_compact (tokens : List Token) : Layout tokens (tokens.flatMap Token.bytes) := by
  induction tokens with
  | nil => exact .nil [] (by simp)
  | cons token tokens ih => exact .cons [] (by simp) token ih

theorem Layout.of_nil {text : Bytes} (h : Layout [] text) : ∀ c ∈ text, isBlank c = true := by
  cases h with
  | nil space hspace => exact hspace

theorem exists_of_map_find? {α : Type _} {β : Type _} {members : List (α × β)} {p : α × β → Bool}
    {value : β} (h : (members.find? p).map (·.2) = some value)
    : ∃ name, (name, value) ∈ members ∧ p (name, value) = true := by
  rw [Option.map_eq_some_iff] at h
  obtain ⟨⟨name, value'⟩, hfound, heq⟩ := h
  change value' = value at heq
  subst heq
  exact ⟨name, List.mem_of_find?_eq_some hfound, List.find?_some hfound⟩

theorem Tree.exists_of_firstNamed {shape : Shape} {v : Tree shape} {key : Bytes}
    {kind : Value → Bool} {value : Value} (h : v.firstNamed key kind = some value)
    : ∃ name, (name, value) ∈ v.members ∧ name.bytes = key ∧ kind value = true := by
  obtain ⟨name, hmem, hkind⟩ := exists_of_map_find? h
  rw [Bool.and_eq_true, decide_eq_true_eq] at hkind
  exact ⟨name, hmem, hkind⟩

theorem Tree.kind_of_firstNamed {shape : Shape} {v : Tree shape} {key : Bytes}
    {kind : Value → Bool} (h : v.firstNamed key kind = none) {name : Text} {value : Value}
    (hmem : (name, value) ∈ v.members) (hname : name.bytes = key)
    : kind value = false := by
  unfold firstNamed at h
  rw [Option.map_eq_none_iff, List.find?_eq_none] at h
  simpa [hname] using h _ hmem

theorem Tree.exists_of_get {shape : Shape} {v : Tree shape} {key : Bytes} {value : Value}
    (h : v.get key = some value)
    : ∃ name, (name, value) ∈ v.members ∧ name.bytes = key := by
  induction v with
  | object members ih => exact ih h
  | member name value' rest _ ih =>
    rw [get] at h
    split at h
    . next hname =>
      rw [Option.some.injEq] at h
      rw [h]
      exact ⟨name, List.mem_cons_self, hname⟩
    . obtain ⟨name', hmem, hname⟩ := ih h
      exact ⟨name', List.mem_cons_of_mem _ (List.mem_append_right _ hmem), hname⟩
  | literal atom => contradiction
  | string text => contradiction
  | array elements => contradiction
  | noElements => contradiction
  | element head tail => contradiction
  | noMembers => contradiction

end Json
end NetmonPlugins

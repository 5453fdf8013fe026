import Mathlib.Data.List.Forall2
import NetmonPlugins.Common.JsonUtils.Braces

/-!
This module shows that the layouts of a document without escapes are texts as they are written, and
that both have the same members.
-/

namespace NetmonPlugins

open Json

/-- The node is the tree with blanks. -/
inductive Draws : {shape : Shape} → Node shape → Tree shape → Prop where
  | literal (atom : Literal) : Draws (.literal atom) (.literal atom)
  | string {raw : Raw} {text : Text} (h : raw.bytes = text.bytes) : Draws (.string raw) (.string text)
  | array {elements : Node .elements} {elements' : Tree .elements} (h : Draws elements elements')
      (close : Blank) : Draws (.array elements close) (.array elements')
  | object {members : Node .members} {members' : Tree .members} (h : Draws members members')
      (close : Blank) : Draws (.object members close) (.object members')
  | noElements : Draws .noElements .noElements
  | element (comma lead : Blank) {head : ValueNode} {head' : Value} {tail : Node .elements}
      {tail' : Tree .elements} (h : Draws head head') (h' : Draws tail tail')
      : Draws (.element comma lead head tail) (.element head' tail')
  | noMembers : Draws .noMembers .noMembers
  | member (comma lead colon space : Blank) {name : Raw} {name' : Text} {value : ValueNode}
      {value' : Value} {rest : Node .members} {rest' : Tree .members}
      (hname : name.bytes = name'.bytes) (h : Draws value value') (h' : Draws rest rest')
      : Draws (.member comma lead name colon space value rest) (.member name' value' rest')

def Json.Text.raw (text : Text) : Raw where
  bytes := text.bytes
  escaped := isEscaped_of_plain fun c hc => ⟨(text.plain c hc).1, (text.plain c hc).2.1⟩

/-- A text begins with blanks and a layout of the tree. Only a value has blanks of its own. -/
def BeginsWithLayout {shape : Shape} (v : Tree shape) (first : Bool) (rest : List Token)
    (text : Bytes) : Prop :=
  ∃ (lead : Blank) (node : Node shape) (text' : Bytes), (shape = .value ∨ lead.bytes = [])
    ∧ Draws node v ∧ text = lead.bytes ++ (node.text first ++ text') ∧ Layout rest text'

theorem exists_separator {first : Bool} {rest : List Token} {text : Bytes}
    (h : Layout (separator first ++ rest) text)
    : ∃ (comma : Blank) (text' : Bytes), text = comma.separator first ++ text' ∧ Layout rest text' := by
  cases first with
  | true => exact ⟨{}, text, rfl, h⟩
  | false =>
    obtain ⟨space, text', hspace, hlayout, rfl⟩ := layout_cons_iff.mp h
    refine ⟨⟨space, hspace⟩, text', ?_, hlayout⟩
    simp [Blank.separator, Token.bytes]

theorem beginsWithLayout {shape : Shape} (v : Tree shape) (first : Bool) {rest : List Token}
    {text : Bytes} (h : Layout (v.tokens first ++ rest) text)
    : BeginsWithLayout v first rest text := by
  induction v generalizing first rest text with
  | literal atom =>
    obtain ⟨space, text', hspace, hlayout, rfl⟩ := layout_cons_iff.mp h
    exact ⟨⟨space, hspace⟩, .literal atom, text', .inl rfl, .literal atom, rfl, hlayout⟩
  | string string =>
    obtain ⟨space, text', hspace, hlayout, rfl⟩ := layout_cons_iff.mp h
    exact ⟨⟨space, hspace⟩, .string string.raw, text', .inl rfl, .string rfl, by
      simp [Token.bytes, Node.text, quoted, Text.raw], hlayout⟩
  | array elements ih =>
    rw [Tree.tokens, List.cons_append, List.append_assoc] at h
    obtain ⟨space, text₁, hspace, h₁, rfl⟩ := layout_cons_iff.mp h
    obtain ⟨lead, node, text₂, hlead, hdraws, rfl, h₂⟩ := ih true h₁
    obtain ⟨close, text₃, hclose, h₃, rfl⟩ := layout_cons_iff.mp h₂
    refine ⟨⟨space, hspace⟩, .array node ⟨close, hclose⟩, text₃, .inl rfl, .array hdraws _, ?_, h₃⟩
    rw [hlead.resolve_left (by simp)]
    simp [Token.bytes, Node.text]
  | object members ih =>
    rw [Tree.tokens, List.cons_append, List.append_assoc] at h
    obtain ⟨space, text₁, hspace, h₁, rfl⟩ := layout_cons_iff.mp h
    obtain ⟨lead, node, text₂, hlead, hdraws, rfl, h₂⟩ := ih true h₁
    obtain ⟨close, text₃, hclose, h₃, rfl⟩ := layout_cons_iff.mp h₂
    refine ⟨⟨space, hspace⟩, .object node ⟨close, hclose⟩, text₃, .inl rfl, .object hdraws _, ?_, h₃⟩
    rw [hlead.resolve_left (by simp)]
    simp [Token.bytes, Node.text]
  | noElements => exact ⟨{}, .noElements, text, .inr rfl, .noElements, rfl, h⟩
  | element head tail ihHead ihTail =>
    rw [Tree.tokens, List.append_assoc, List.append_assoc] at h
    obtain ⟨comma, text₁, rfl, h₁⟩ := exists_separator h
    obtain ⟨lead, headNode, text₂, _, hhead, rfl, h₂⟩ := ihHead true h₁
    obtain ⟨none, tailNode, text₃, hnone, htail, rfl, h₃⟩ := ihTail false h₂
    refine ⟨{}, .element comma lead headNode tailNode, text₃, .inr rfl, .element _ _ hhead htail, ?_,
      h₃⟩
    rw [hnone.resolve_left (by simp)]
    simp [Node.text]
  | noMembers => exact ⟨{}, .noMembers, text, .inr rfl, .noMembers, rfl, h⟩
  | member name value members ihValue ihMembers =>
    rw [Tree.tokens, List.append_assoc, List.cons_append, List.cons_append, List.append_assoc] at h
    obtain ⟨comma, text₁, rfl, h₁⟩ := exists_separator h
    obtain ⟨lead, text₂, hlead, h₂, rfl⟩ := layout_cons_iff.mp h₁
    obtain ⟨colon, text₃, hcolon, h₃, rfl⟩ := layout_cons_iff.mp h₂
    obtain ⟨space, valueNode, text₄, _, hvalue, rfl, h₄⟩ := ihValue true h₃
    obtain ⟨none, restNode, text₅, hnone, hrest, rfl, h₅⟩ := ihMembers false h₄
    refine ⟨{}, .member comma ⟨lead, hlead⟩ name.raw ⟨colon, hcolon⟩ space valueNode restNode, text₅,
      .inr rfl, .member _ _ _ _ rfl hvalue hrest, ?_, h₅⟩
    rw [hnone.resolve_left (by simp)]
    simp [Token.bytes, Node.text, quoted, Text.raw]

theorem exists_document {v : Value} {text : Bytes} (h : Layout (v.tokens true) text)
    : ∃ document : Document, Draws document.value v ∧ text = document.text := by
  rw [← List.append_nil (v.tokens true)] at h
  obtain ⟨lead, node, trail, _, hdraws, htext, htrail⟩ := beginsWithLayout v true h
  exact ⟨⟨lead, node, ⟨trail, htrail.of_nil⟩⟩, hdraws, htext⟩

theorem layout_separator (comma : Blank) (first : Bool)
    : Layout (separator first) (comma.separator first) := by
  cases first with
  | true => exact .nil [] (by simp)
  | false => exact .cons comma.bytes comma.blank .comma (.nil [] (by simp))

theorem layout_token (token : Token) {tokens : List Token} {text : Bytes} (h : Layout tokens text)
    : Layout (token :: tokens) (token.bytes ++ text) :=
  .cons [] (by simp) token h

theorem layout_closing (close : Blank) (token : Token)
    : Layout [token] (close.bytes ++ token.bytes) := by
  have hlayout : Layout [token] (close.bytes ++ (token.bytes ++ [])) :=
    .cons close.bytes close.blank token (.nil [] (by simp))
  rwa [List.append_nil] at hlayout

theorem layout_quoted {raw : Raw} {text : Text} (h : raw.bytes = text.bytes) {tokens : List Token}
    {rest : Bytes} (hrest : Layout tokens rest)
    : Layout (.string text :: tokens) (quoted raw.bytes ++ rest) := by
  rw [h]
  exact layout_token (.string text) hrest

theorem Draws.layout {shape : Shape} {node : Node shape} {v : Tree shape} (h : Draws node v)
    (first : Bool)
    : Layout (v.tokens first) (node.text first) := by
  induction h generalizing first with
  | literal atom =>
    have hlayout := layout_token (.literal atom) (.nil [] (by simp))
    rwa [List.append_nil] at hlayout
  | string h =>
    have hlayout := layout_quoted h (.nil [] (by simp))
    rwa [List.append_nil] at hlayout
  | array h close ih =>
    exact layout_token .openBracket ((ih true).append (layout_closing close .closeBracket))
  | object h close ih =>
    exact layout_token .openBrace ((ih true).append (layout_closing close .closeBrace))
  | noElements => exact .nil [] (by simp)
  | element comma lead h h' ih ih' =>
    exact (layout_separator comma first).append
      (((ih true).append (ih' false)).blank_append lead.blank)
  | noMembers => exact .nil [] (by simp)
  | member comma lead colon space hname h h' ih ih' =>
    have hvalue := ((ih true).append (ih' false)).blank_append space.blank
    have hbehind := (layout_token .colon hvalue).blank_append colon.blank
    exact (layout_separator comma first).append ((layout_quoted hname hbehind).blank_append lead.blank)

/-- The layouts of a tree are the texts of the documents that are the tree with blanks. -/
theorem layout_iff_exists {v : Value} {text : Bytes}
    : Layout (v.tokens true) text
        ↔
      ∃ document : Document, Draws document.value v ∧ document.text = text := by
  constructor
  . intro h
    obtain ⟨document, hdraws, htext⟩ := exists_document h
    exact ⟨document, hdraws, htext.symm⟩
  . rintro ⟨document, hdraws, rfl⟩
    have htrail := (hdraws.layout true).append (.nil document.trail.bytes document.trail.blank)
    rw [List.append_nil] at htrail
    exact htrail.blank_append document.lead.blank

theorem Draws.members {shape : Shape} {node : Node shape} {v : Tree shape} (h : Draws node v)
    : List.Forall₂ (fun m m' => m.1.bytes = m'.1.bytes ∧ Draws m.2 m'.2) node.members v.members := by
  induction h with
  | literal atom => exact .nil
  | string h => exact .nil
  | array h close ih => exact ih
  | object h close ih => exact ih
  | noElements => exact .nil
  | element comma lead h h' ih ih' => exact List.rel_append ih ih'
  | noMembers => exact .nil
  | member comma lead colon space hname h h' ih ih' => exact .cons ⟨hname, h⟩ (List.rel_append ih ih')

theorem Draws.isNested {shape : Shape} {node : Node shape} {v : Tree shape} (h : Draws node v)
    : ∀ raw ∈ node.strings, IsNested raw.bytes := by
  have htext : ∀ {raw : Raw} {text : Text}, raw.bytes = text.bytes → IsNested raw.bytes := by
    intro raw text hbytes
    rw [hbytes]
    apply isNested_of_notMem
    . intro hmem
      exact (text.plain _ hmem).2.2.1 rfl
    . intro hmem
      exact (text.plain _ hmem).2.2.2 rfl
  induction h with
  | literal atom => simp [Node.strings]
  | string h =>
    intro raw hraw
    rw [List.mem_singleton.mp hraw]
    exact htext h
  | array h close ih => exact ih
  | object h close ih => exact ih
  | noElements => simp [Node.strings]
  | element comma lead h h' ih ih' => exact List.forall_mem_append.mpr ⟨ih, ih'⟩
  | noMembers => simp [Node.strings]
  | member comma lead colon space hname h h' ih ih' =>
    exact List.forall_mem_cons.mpr ⟨htext hname, List.forall_mem_append.mpr ⟨ih, ih'⟩⟩

/-- The same member is found in the node and in the tree. -/
theorem Draws.firstNamed {shape : Shape} {node : Node shape} {v : Tree shape} (h : Draws node v)
    {key : Bytes} {kind : ValueNode → Bool} {kind' : Value → Bool}
    (hkind : ∀ value value', Draws value value' → kind value = kind' value')
    : Option.Rel Draws (node.firstNamed key kind) (v.firstNamed key kind') := by
  unfold Node.firstNamed Tree.firstNamed
  have hmembers := h.members
  generalize node.members = members at hmembers
  generalize v.members = members' at hmembers
  induction hmembers with
  | nil => exact .none
  | @cons m m' members members' hm hmembers ih =>
    have hquote : (34 : UInt8) ∉ m.1.bytes := by
      rw [hm.1]
      intro hmem
      exact (m'.1.plain _ hmem).1 rfl
    have hname : (decide (m.1.Reads key) && kind m.2) = (decide (m'.1.bytes = key) && kind' m'.2) := by
      rw [hkind _ _ hm.2, ← hm.1]
      congr 1
      exact decide_eq_decide.mpr (reads_iff_of_notMem hquote)
    rw [List.find?_cons, List.find?_cons, hname]
    split
    . exact .some hm.2
    . exact ih

theorem Draws.exists_of_firstNamed {shape : Shape} {node : Node shape} {v : Tree shape}
    (h : Draws node v) {key : Bytes} {kind : ValueNode → Bool} {kind' : Value → Bool}
    (hkind : ∀ value value', Draws value value' → kind value = kind' value') {value' : Value}
    (hfirst : v.firstNamed key kind' = some value')
    : ∃ value, node.firstNamed key kind = some value ∧ Draws value value' := by
  have hrel : Option.Rel Draws (node.firstNamed key kind) (v.firstNamed key kind') :=
    h.firstNamed hkind
  rw [hfirst] at hrel
  cases hnode : node.firstNamed key kind with
  | none =>
    rw [hnode] at hrel
    cases hrel
  | some value =>
    rw [hnode] at hrel
    cases hrel with
    | some hvalue => exact ⟨value, rfl, hvalue⟩

theorem Draws.firstNamed_eq_none {shape : Shape} {node : Node shape} {v : Tree shape}
    (h : Draws node v) {key : Bytes} {kind : ValueNode → Bool} {kind' : Value → Bool}
    (hkind : ∀ value value', Draws value value' → kind value = kind' value')
    (hfirst : v.firstNamed key kind' = none)
    : node.firstNamed key kind = none := by
  have hrel : Option.Rel Draws (node.firstNamed key kind) (v.firstNamed key kind') :=
    h.firstNamed hkind
  rw [hfirst] at hrel
  cases hnode : node.firstNamed key kind with
  | none => rfl
  | some value =>
    rw [hnode] at hrel
    cases hrel

theorem Draws.isFilled_eq (node : ValueNode) (v : Value) (h : Draws node v)
    : node.isFilled = v.isString := by
  cases h with
  | literal atom => rfl
  | @string raw text h =>
    show decide (raw.bytes ≠ []) = true
    rw [h]
    exact decide_eq_true text.ne_nil
  | array h close => rfl
  | object h close => rfl

theorem Draws.isObject_eq (node : ValueNode) (v : Value) (h : Draws node v)
    : node.isObject = v.isObject := by
  cases h with
  | literal atom => rfl
  | string h => rfl
  | array h close => rfl
  | object h close => rfl

end NetmonPlugins

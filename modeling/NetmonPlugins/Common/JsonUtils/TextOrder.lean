import Mathlib.Data.List.Find
import NetmonPlugins.Common.JsonUtils.Layout
import NetmonPlugins.Common.JsonUtils.Nested

/-!
This module determines what `extractJsonNestedValue` returns for a path into a document: the names
are looked up in the order of the text, and that is a lookup in the objects where no other member
has one of the names.
-/

namespace NetmonPlugins

open Regex Json

/-- The value of the first member of this name in the text, at any depth, of the wanted kind. -/
def firstMember (node : ValueNode) (key : Bytes) (kind : ValueNode → Bool) : Option ValueNode :=
  (node.members.find? fun m => m.1.bytes = key && kind m.2).map (·.2)

/-- Of a string the content, of an array or an object its text up to a comma or a closing brace. -/
def reading : ValueNode → Bytes
  | .literal atom => atom.bytes
  | .string raw => raw.bytes
  | .array elements close => trim (((Node.array elements close).text true).takeWhile isValueByte)
  | .object members close => trim (((Node.object members close).text true).takeWhile isValueByte)

/--
On the way an object of the name is looked for, at the end a string and only then any value. All
depths are searched.
-/
def lookupInText (node : ValueNode) : List Bytes → Bytes
  | [] => []
  | [key] =>
    match (firstMember node key Node.isFilled).or (firstMember node key fun _ => true) with
    | some value => reading value
    | none => []
  | key :: next :: keys =>
    match firstMember node key Node.isObject with
    | some value => lookupInText value (next :: keys)
    | none => []

/--
At each object on the path, every member of the name that the object has in it is the one that the
path goes on with, and the path ends at a scalar.
-/
def Unshadowed (v : Value) : List Bytes → Prop
  | [] => v.isScalar = true
  | key :: keys =>
    (∀ m ∈ v.members, m.1.bytes = key → v.get key = some m.2)
      ∧ ∀ value, v.get key = some value → Unshadowed value keys

theorem get_of_firstNamed {v value : Value} {key : Bytes} {kind : Value → Bool}
    (hunique : ∀ m ∈ v.members, m.1.bytes = key → v.get key = some m.2)
    (h : v.firstNamed key kind = some value)
    : v.get key = some value := by
  obtain ⟨name, hmem, hname, _⟩ := Tree.exists_of_firstNamed h
  exact hunique _ hmem hname

theorem kind_of_get {v value : Value} {key : Bytes} {kind : Value → Bool}
    (hnone : v.firstNamed key kind = none) (h : v.get key = some value)
    : kind value = false := by
  obtain ⟨name, hmem, hname⟩ := Tree.exists_of_get h
  exact Tree.kind_of_firstNamed hnone hmem hname

theorem Draws.of_mem {node : ValueNode} {v : Value} (h : Draws node v)
    : ∀ m ∈ node.members, (34 : UInt8) ∉ m.1.bytes ∧ ∃ value, Draws m.2 value := by
  have hmembers := h.members
  generalize node.members = members at hmembers
  generalize v.members = members' at hmembers
  induction hmembers with
  | nil => exact List.forall_mem_nil _
  | @cons m m' members members' hm hmembers ih =>
    rw [List.forall_mem_cons]
    refine ⟨⟨?_, m'.2, hm.2⟩, ih⟩
    rw [hm.1]
    intro hmem
    exact (m'.1.plain _ hmem).1 rfl

theorem Draws.plain_of_string {raw : Raw} {v : Value} (h : Draws (.string raw) v)
    : raw.bytes ≠ [] ∧ (34 : UInt8) ∉ raw.bytes := by
  cases h with
  | @string raw text hbytes =>
    rw [hbytes]
    refine ⟨text.ne_nil, ?_⟩
    intro hmem
    exact (text.plain _ hmem).1 rfl

/-- Without a quote in it, a name reads the key only as a whole. -/
theorem Draws.firstMember_eq {node : ValueNode} {v : Value} (h : Draws node v) (key : Bytes)
    (kind : ValueNode → Bool)
    : firstMember node key kind = node.firstNamed key kind := by
  unfold firstMember Node.firstNamed
  congr 1
  apply List.find?_congr
  intro m hm
  congr 1
  exact decide_eq_decide.mpr (reads_iff_of_notMem (h.of_mem m hm).1).symm

theorem Draws.reading_eq {node : ValueNode} {v : Value} (h : Draws node v)
    (hscalar : v.isScalar = true)
    : reading node = v.scalar := by
  cases h with
  | literal atom => rfl
  | string h => exact h
  | array h close => contradiction
  | object h close => contradiction

theorem lookup_last_of_unshadowed {node : ValueNode} {v : Value} (hdraws : Draws node v)
    {key : Bytes} (hscope : Unshadowed v [key])
    : lookupInText node [key] = v.lookup [key] := by
  obtain ⟨hunique, hnext⟩ := hscope
  rw [lookupInText, hdraws.firstMember_eq, hdraws.firstMember_eq, Tree.lookup]
  cases hstring : v.firstNamed key Tree.isString with
  | some value =>
    obtain ⟨node', hfilled, hvalue⟩ := hdraws.exists_of_firstNamed Draws.isFilled_eq hstring
    have hget := get_of_firstNamed hunique hstring
    rw [hfilled, hget]
    exact hvalue.reading_eq (hnext value hget)
  | none =>
    rw [hdraws.firstNamed_eq_none Draws.isFilled_eq hstring, Option.none_or]
    cases hany : v.firstNamed key (fun _ => true) with
    | some value =>
      obtain ⟨node', hfirst, hvalue⟩ : ∃ node', node.firstNamed key (fun _ => true) = some node'
          ∧ Draws node' value :=
        hdraws.exists_of_firstNamed (fun _ _ _ => rfl) hany
      have hget := get_of_firstNamed hunique hany
      rw [hfirst, hget]
      exact hvalue.reading_eq (hnext value hget)
    | none =>
      have hnone : node.firstNamed key (fun _ => true) = none :=
        hdraws.firstNamed_eq_none (fun _ _ _ => rfl) hany
      rw [hnone]
      cases hget : v.get key with
      | none => rfl
      | some value =>
        have hother := kind_of_get hany hget
        contradiction

theorem lookup_of_unshadowed {node : ValueNode} {v : Value} (hdraws : Draws node v)
    {keys : List Bytes} (hne : keys ≠ []) (hscope : Unshadowed v keys)
    : lookupInText node keys = v.lookup keys := by
  induction keys generalizing node v with
  | nil => contradiction
  | cons key keys ih =>
    cases keys with
    | nil => exact lookup_last_of_unshadowed hdraws hscope
    | cons next keys =>
      obtain ⟨hunique, hnext⟩ := hscope
      rw [lookupInText, hdraws.firstMember_eq, Tree.lookup]
      cases hobject : v.firstNamed key Tree.isObject with
      | some value =>
        obtain ⟨node', hfirst, hvalue⟩ := hdraws.exists_of_firstNamed Draws.isObject_eq hobject
        have hget := get_of_firstNamed hunique hobject
        rw [hfirst, hget]
        exact ih hvalue (List.cons_ne_nil _ _) (hnext value hget)
      | none =>
        rw [hdraws.firstNamed_eq_none Draws.isObject_eq hobject]
        cases hget : v.get key with
        | none => rfl
        | some value =>
          have hother := kind_of_get hobject hget
          cases value with
          | object members => contradiction
          | literal atom => rfl
          | string text => rfl
          | array elements => rfl

def dotted : List Bytes → Bytes
  | [] => []
  | [key] => key
  | key :: next :: keys => key ++ (str "." ++ dotted (next :: keys))

theorem extractJsonValue_eq_lookupInText {key : Bytes} (hkey : IsIdentifier key)
    {document : Document} {v : Value} (hdraws : Draws document.value v)
    : extractJsonValue document.text key = lookupInText document.value [key] := by
  rw [lookupInText, hdraws.firstMember_eq, hdraws.firstMember_eq]
  cases hfilled : document.value.firstNamed key Node.isFilled with
  | some node =>
    obtain ⟨name, hmem, -, hkind⟩ := Node.exists_of_firstNamed hfilled
    obtain ⟨-, value, hvalue⟩ := hdraws.of_mem _ hmem
    cases node with
    | string raw =>
      rw [extractJsonValue_of_filled hkey hfilled, visible_of_notMem hvalue.plain_of_string.2]
      rfl
    | literal atom => contradiction
    | array elements close => contradiction
    | object members close => contradiction
  | none =>
    rw [Option.none_or]
    cases hany : document.value.firstNamed key (fun _ => true) with
    | none =>
      apply extractJsonValue_of_none hkey
      intro m hm hreads
      have hkind := Node.firstNamed_eq_none_iff.mp hany m hm hreads
      contradiction
    | some node =>
      obtain ⟨name, hmem, hreads, -⟩ := Node.exists_of_firstNamed hany
      obtain ⟨-, value, hvalue⟩ := hdraws.of_mem _ hmem
      have hresult := extractJsonValue_of_bare hkey hfilled hany
      cases node with
      | literal atom => exact hresult.trans (trim_takeWhile_literal atom)
      | string raw =>
        -- It would have been found before.
        have hempty := Node.firstNamed_eq_none_iff.mp hfilled _ hmem hreads
        simp [Node.isFilled, hvalue.plain_of_string.1] at hempty
      | array elements close => exact hresult
      | object members close => exact hresult

theorem extractJsonNestedValue_eq_lookupInText {document : Document} {v : Value}
    (hdraws : Draws document.value v) {keys : List Bytes} (hne : keys ≠ [])
    (hkeys : ∀ key ∈ keys, IsIdentifier key)
    : extractJsonNestedValue document.text (dotted keys) = lookupInText document.value keys := by
  induction keys generalizing v document with
  | nil => contradiction
  | cons key keys ih =>
    rw [List.forall_mem_cons] at hkeys
    obtain ⟨hkey, hkeys⟩ := hkeys
    cases keys with
    | nil =>
      rw [dotted, extractJsonNestedValue_of_key (hkey.notMem (by decide))]
      exact extractJsonValue_eq_lookupInText hkey hdraws
    | cons next keys =>
      rw [dotted, extractJsonNestedValue_of_path (hkey.notMem (by decide)), lookupInText,
        hdraws.firstMember_eq]
      cases hobject : document.value.firstNamed key Node.isObject with
      | none => rw [nestedJson_of_none hkey hobject]
      | some node =>
        obtain ⟨name, hmem, -, hkind⟩ := Node.exists_of_firstNamed hobject
        obtain ⟨-, value, hvalue⟩ := hdraws.of_mem _ hmem
        have hcloses := closesAtEnd_of_isObject hkind hvalue.isNested
        have htext : node.text true = ({ value := node } : Document).text := by
          simp [Document.text]
        rw [(nestedJson_eq_some_iff hkey hobject).mpr hcloses, htext]
        exact ih hvalue (List.cons_ne_nil _ _) hkeys

/--
The lookup of a path takes the first fitting member in the text at each step; where no other member
has a name of the path, this is the lookup from object to object.
-/
theorem extractJsonNestedValue_textOrder (v : Value) (text : Bytes) (keys : List Bytes)
    (h : Layout (v.tokens true) text) (hne : keys ≠ []) (hkeys : ∀ key ∈ keys, IsIdentifier key)
    : (∃ document : Document, Draws document.value v ∧ document.text = text)
        ∧
      (∀ document : Document, Draws document.value v → document.text = text
        → extractJsonNestedValue text (dotted keys) = lookupInText document.value keys)
        ∧
      (Unshadowed v keys → extractJsonNestedValue text (dotted keys) = v.lookup keys) := by
  obtain ⟨document, hdraws, rfl⟩ := layout_iff_exists.mp h
  refine ⟨⟨document, hdraws, rfl⟩, ?_, ?_⟩
  . intro document' hdraws' htext
    rw [← htext]
    exact extractJsonNestedValue_eq_lookupInText hdraws' hne hkeys
  . intro hscope
    rw [extractJsonNestedValue_eq_lookupInText hdraws hne hkeys]
    exact lookup_of_unshadowed hdraws hne hscope

theorem isIdentifier_of_all {key : Bytes} (hne : key ≠ []) (h : key.all isIdentifierByte = true)
    : IsIdentifier key :=
  ⟨hne, List.all_eq_true.mp h⟩

def healthMembers : Tree .members :=
  .member (.ofPlain (str "health") (by decide) (by decide))
    (.string (.ofPlain (str "yellow") (by decide) (by decide))) .noMembers

def clusterDocument : Value :=
  .object (.member (.ofPlain (str "cluster") (by decide) (by decide)) (.object healthMembers) .noMembers)

theorem unshadowed_health : Unshadowed (.object healthMembers) [str "health"] := by
  constructor
  . intro m hm hname
    have heq := List.mem_singleton.mp hm
    rw [heq]
    rfl
  . intro value hvalue
    injection hvalue with hvalue
    rw [← hvalue]
    rfl

theorem unshadowed_cluster : Unshadowed clusterDocument [str "cluster", str "health"] := by
  have hne : str "health" ≠ str "cluster" := by decide
  constructor
  . intro m hm hname
    change m ∈ [_, _] at hm
    rw [List.mem_pair] at hm
    obtain rfl | rfl := hm
    . rfl
    . exact absurd hname hne
  . intro value hvalue
    injection hvalue with hvalue
    rw [← hvalue]
    exact unshadowed_health

theorem extractJsonNestedValue_cluster_health
    : extractJsonNestedValue (str "\x7b\"cluster\":\x7b\"health\":\"yellow\"\x7d\x7d")
        (dotted [str "cluster", str "health"])
        =
      str "yellow" := by
  have hlayout : Layout (clusterDocument.tokens true)
      (str "\x7b\"cluster\":\x7b\"health\":\"yellow\"\x7d\x7d") :=
    layout_compact (clusterDocument.tokens true)
  have hkeys : ∀ key ∈ [str "cluster", str "health"], IsIdentifier key := by
    rw [List.forall_mem_cons, List.forall_mem_singleton]
    constructor
    . exact isIdentifier_of_all (by decide) (by decide)
    . exact isIdentifier_of_all (by decide) (by decide)
  exact (extractJsonNestedValue_textOrder clusterDocument _ [str "cluster", str "health"] hlayout
    (by decide) hkeys).2.2 unshadowed_cluster

def outerStatus : Value :=
  .object (.member (.ofPlain (str "a") (by decide) (by decide))
    (.object (.member (.ofPlain (str "status") (by decide) (by decide))
      (.string (.ofPlain (str "x") (by decide) (by decide))) .noMembers))
    (.member (.ofPlain (str "status") (by decide) (by decide))
      (.string (.ofPlain (str "y") (by decide) (by decide))) .noMembers))

/-- A member of another object that stands earlier in the text is returned instead. -/
theorem extractJsonNestedValue_ne_lookup
    : Layout (outerStatus.tokens true)
          (str "\x7b\"a\":\x7b\"status\":\"x\"\x7d,\"status\":\"y\"\x7d")
        ∧
      extractJsonNestedValue
          (str "\x7b\"a\":\x7b\"status\":\"x\"\x7d,\"status\":\"y\"\x7d")
          (dotted [str "status"])
          =
        str "x"
        ∧
      outerStatus.lookup [str "status"] = str "y" := by
  refine ⟨layout_compact (outerStatus.tokens true), ?_, by decide⟩
  rw [dotted, extractJsonNestedValue_of_key (by decide)]
  decide

end NetmonPlugins

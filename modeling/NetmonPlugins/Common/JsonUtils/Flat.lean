import Mathlib.Data.List.Nodup
import NetmonPlugins.Common.JsonUtils.Lookup

/-!
This module shows that the lookup of a key in a flat object is exact.
-/

namespace NetmonPlugins

open Json

/-- A literal, or a string that has some content and neither quotes nor backslashes. -/
def Json.Node.IsPlain : ValueNode → Prop
  | .literal _ => True
  | .string raw => raw.bytes ≠ [] ∧ ∀ c ∈ raw.bytes, c ≠ 34 ∧ c ≠ 92
  | .array _ _ => False
  | .object _ _ => False

def Json.Node.content : ValueNode → Bytes
  | .literal atom => atom.bytes
  | .string raw => raw.bytes
  | .array _ _ => []
  | .object _ _ => []

-- No value has members, so that all members are those of the object.
structure IsFlat (document : Document) : Prop where
  object : document.value.isObject = true
  names : ∀ m ∈ document.value.members, IsIdentifier m.1.bytes
  distinct : (document.value.members.map (·.1.bytes)).Nodup
  values : ∀ m ∈ document.value.members, m.2.IsPlain

variable {document : Document} {key : Bytes}

theorem IsFlat.reads_iff (h : IsFlat document) {m : Raw × ValueNode}
    (hm : m ∈ document.value.members)
    : m.1.Reads key ↔ m.1.bytes = key :=
  reads_iff_of_notMem ((h.names m hm).notMem (by decide))

theorem IsFlat.eq_of_reads (h : IsFlat document) {m m' : Raw × ValueNode}
    (hm : m ∈ document.value.members) (hname : m.1.bytes = key)
    (hm' : m' ∈ document.value.members) (hreads : m'.1.Reads key)
    : m'.2 = m.2 := by
  have hname' := (h.reads_iff hm').mp hreads
  rw [List.inj_on_of_nodup_map h.distinct hm' hm (hname'.trans hname.symm)]

theorem IsFlat.extractJsonValue_eq_content (h : IsFlat document) (hkey : IsIdentifier key)
    {m : Raw × ValueNode} (hm : m ∈ document.value.members) (hname : m.1.bytes = key)
    : extractJsonValue document.text key = m.2.content := by
  have hreads := (h.reads_iff hm).mpr hname
  have hunique : ∀ m' ∈ document.value.members, m'.1.Reads key → m'.2 = m.2 :=
    fun m' hm' hreads' => h.eq_of_reads hm hname hm' hreads'
  have hplain := h.values m hm
  obtain ⟨name, value⟩ := m
  cases value with
  | string raw =>
    rw [extractJsonValue_of_filled hkey
      (Node.firstNamed_of_unique hm hreads (decide_eq_true hplain.1) hunique)]
    apply visible_of_notMem
    intro hquote
    exact (hplain.2 _ hquote).1 rfl
  | literal atom =>
    have hfilled : document.value.firstNamed key Node.isFilled = none := by
      rw [Node.firstNamed_eq_none_iff]
      intro m' hm' hreads'
      rw [hunique m' hm' hreads']
      rfl
    rw [extractJsonValue_of_bare hkey hfilled (Node.firstNamed_of_unique hm hreads rfl hunique)]
    apply trim_takeWhile_literal
  | array elements close => exact hplain.elim
  | object members close => exact hplain.elim

/-- In a flat object a key is found exactly where it is a name, with the content of its value. -/
theorem flatLookup (document : Document) (key : Bytes) (h : IsFlat document)
    (hkey : IsIdentifier key)
    : (∀ m ∈ document.value.members, m.1.bytes = key
          → extractJsonValue document.text key = m.2.content)
        ∧
      ((∀ m ∈ document.value.members, m.1.bytes ≠ key) → extractJsonValue document.text key = [])
        ∧
      (jsonHasKey document.text key = true ↔ ∃ m ∈ document.value.members, m.1.bytes = key) := by
  refine ⟨?_, ?_, ?_⟩
  . intro m hm hname
    exact h.extractJsonValue_eq_content hkey hm hname
  . intro hnone
    apply extractJsonValue_of_none hkey
    intro m hm hreads
    exact hnone m hm ((h.reads_iff hm).mp hreads)
  . rw [jsonHasKey_iff hkey]
    constructor
    . rintro ⟨m, hm, hreads⟩
      exact ⟨m, hm, (h.reads_iff hm).mp hreads⟩
    . rintro ⟨m, hm, hname⟩
      exact ⟨m, hm, (h.reads_iff hm).mpr hname⟩

def nodeStatus : Document where
  value := .object
    (.member {} ⟨str " ", by simp [str, isBlank]⟩ ⟨str "node", by decide⟩ {} {}
      (.string ⟨str "a,\x7bb\x7d:c", by decide⟩)
      (.member {} {} ⟨str "count", by decide⟩ ⟨[9], by simp [isBlank]⟩ ⟨[10], by simp [isBlank]⟩
        (.literal (.ofPlain (str "12") (by decide) (by decide))) .noMembers))
    ⟨str " ", by simp [str, isBlank]⟩

theorem isFlat_nodeStatus : IsFlat nodeStatus where
  object := rfl
  names := by
    intro m hm
    change m ∈ [_, _] at hm
    rw [List.mem_pair] at hm
    obtain rfl | rfl := hm
    . decide
    . decide
  distinct := by decide
  values := by
    intro m hm
    change m ∈ [_, _] at hm
    rw [List.mem_pair] at hm
    obtain rfl | rfl := hm
    . exact ⟨by decide, by simp [str]⟩
    . trivial

theorem flatLookup_nodeStatus
    : (∀ m ∈ nodeStatus.value.members, m.1.bytes = str "node"
          → extractJsonValue nodeStatus.text (str "node") = m.2.content)
        ∧
      ((∀ m ∈ nodeStatus.value.members, m.1.bytes ≠ str "node")
          → extractJsonValue nodeStatus.text (str "node") = [])
        ∧
      (jsonHasKey nodeStatus.text (str "node") = true
        ↔ ∃ m ∈ nodeStatus.value.members, m.1.bytes = str "node") :=
  flatLookup nodeStatus (str "node") isFlat_nodeStatus (by decide)

end NetmonPlugins

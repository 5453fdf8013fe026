import NetmonPlugins.Common.JsonUtils.Impl
import NetmonPlugins.Rfc.JsonText

/-!
This module contains the search for the brace that closes an object, which counts the braces in
strings like any others.
-/

namespace NetmonPlugins

open Json

/-- Of the braces that the text opens, the first is closed by its last byte and not before. -/
def ClosesAtEnd (text : Bytes) : Prop :=
  text.count 125 = text.count 123
    ∧ ∀ before, before <+: text → before ≠ [] → before ≠ text
      → before.count 125 < before.count 123

instance (text : Bytes) : Decidable (ClosesAtEnd text) :=
  decidable_of_iff
    (text.count 125 = text.count 123
      ∧ ∀ before ∈ text.inits, before ≠ [] → before ≠ text → before.count 125 < before.count 123) <| by
    simp only [List.mem_inits, ClosesAtEnd]

theorem count_openBrace (text : Bytes)
    : (123 :: text).count 125 = text.count 125 ∧ (123 :: text).count 123 = text.count 123 + 1 :=
  ⟨List.count_cons_of_ne (by decide), List.count_cons_self⟩

theorem count_closeBrace (text : Bytes)
    : (125 :: text).count 125 = text.count 125 + 1 ∧ (125 :: text).count 123 = text.count 123 :=
  ⟨List.count_cons_self, List.count_cons_of_ne (by decide)⟩

/-- No brace is closed that the text did not open, and none stays open. -/
structure IsNested (text : Bytes) : Prop where
  count_eq : text.count 125 = text.count 123
  count_le : ∀ before, before <+: text → before.count 125 ≤ before.count 123

theorem isNested_of_notMem {text : Bytes} (hopen : (123 : UInt8) ∉ text)
    (hclose : (125 : UInt8) ∉ text)
    : IsNested text where
  count_eq := by rw [List.count_eq_zero.mpr hopen, List.count_eq_zero.mpr hclose]
  count_le := by
    intro before hbefore
    rw [List.count_eq_zero.mpr fun h => hclose (hbefore.subset h)]
    apply Nat.zero_le

theorem isNested_nil : IsNested [] := isNested_of_notMem (by decide) (by decide)

theorem IsNested.append {text text' : Bytes} (h : IsNested text) (h' : IsNested text')
    : IsNested (text ++ text') where
  count_eq := by rw [List.count_append, List.count_append, h.count_eq, h'.count_eq]
  count_le := by
    rintro before ⟨after, hbefore⟩
    rcases List.append_eq_append_iff.mp hbefore with ⟨inside, htext, _⟩ | ⟨before', rfl, htext'⟩
    . apply h.count_le
      rw [htext]
      apply List.prefix_append
    . rw [List.count_append, List.count_append, h.count_eq]
      have hle := h'.count_le before' (htext' ▸ List.prefix_append _ _)
      omega

theorem IsNested.braces {text : Bytes} (h : IsNested text) : ClosesAtEnd (123 :: (text ++ [125])) := by
  constructor
  . simp [h.count_eq]
  . intro before hbefore hne hproper
    rcases List.prefix_cons_iff.mp hbefore with rfl | ⟨inside, rfl, hinside⟩
    . contradiction
    . rcases List.prefix_concat_iff.mp hinside with rfl | hinside
      . contradiction
      . have hle := h.count_le _ hinside
        rw [(count_openBrace inside).1, (count_openBrace inside).2]
        omega

theorem ClosesAtEnd.isNested {text : Bytes} (h : ClosesAtEnd text) : IsNested text where
  count_eq := h.1
  count_le := by
    intro before hbefore
    by_cases hnil : before = []
    . rw [hnil]
      exact Nat.le_refl 0
    . by_cases hall : before = text
      . rw [hall, h.1]
      . exact Nat.le_of_lt (h.2 _ hbefore hnil hall)

theorem isNested_quoted {content : Bytes} (h : IsNested content) : IsNested (quoted content) := by
  have hquote : IsNested [34] := isNested_of_notMem (by decide) (by decide)
  exact hquote.append (h.append hquote)

theorem isNested_blank (blank : Blank) : IsNested blank.bytes := by
  apply isNested_of_notMem
  . intro hmem
    exact absurd (blank.blank _ hmem) (by decide)
  . intro hmem
    exact absurd (blank.blank _ hmem) (by decide)

theorem isNested_separator (comma : Blank) (first : Bool) : IsNested (comma.separator first) := by
  cases first with
  | true => exact isNested_nil
  | false => exact (isNested_blank comma).append (isNested_of_notMem (by decide) (by decide))

theorem isNested_node {shape : Shape} (v : Node shape) (first : Bool)
    (h : ∀ raw ∈ v.strings, IsNested raw.bytes)
    : IsNested (v.text first) := by
  induction v generalizing first with
  | literal atom =>
    apply isNested_of_notMem
    . intro hmem
      exact absurd (atom.plain _ hmem) (by decide)
    . intro hmem
      exact absurd (atom.plain _ hmem) (by decide)
  | string raw => exact isNested_quoted (h raw List.mem_cons_self)
  | array elements close ih =>
    have hopening : IsNested [91] := isNested_of_notMem (by decide) (by decide)
    have hclosing : IsNested [93] := isNested_of_notMem (by decide) (by decide)
    exact hopening.append ((ih true h).append ((isNested_blank close).append hclosing))
  | object members close ih =>
    have hinside := ((ih true h).append (isNested_blank close)).braces.isNested
    rwa [List.append_assoc] at hinside
  | noElements => exact isNested_nil
  | element comma lead head tail ihHead ihTail =>
    have hhead := ihHead true fun raw hraw => h raw (List.mem_append_left _ hraw)
    have htail := ihTail false fun raw hraw => h raw (List.mem_append_right _ hraw)
    exact (isNested_separator comma first).append
      ((isNested_blank lead).append (hhead.append htail))
  | noMembers => exact isNested_nil
  | member comma lead name colon space value rest ihValue ihRest =>
    have hname := isNested_quoted (h name List.mem_cons_self)
    have hvalue := ihValue true fun raw hraw =>
      h raw (List.mem_cons_of_mem _ (List.mem_append_left _ hraw))
    have hrest := ihRest false fun raw hraw =>
      h raw (List.mem_cons_of_mem _ (List.mem_append_right _ hraw))
    have hcolon : IsNested [58] := isNested_of_notMem (by decide) (by decide)
    exact (isNested_separator comma first).append
      ((isNested_blank lead).append
        (hname.append
          ((isNested_blank colon).append
            (hcolon.append ((isNested_blank space).append (hvalue.append hrest))))))

/-- Braces that are nested within each string do not mislead the count. -/
theorem closesAtEnd_of_isObject {value : ValueNode} (hobject : value.isObject = true)
    (h : ∀ raw ∈ value.strings, IsNested raw.bytes)
    : ClosesAtEnd (value.text true) := by
  cases value with
  | object members close =>
    have hinside := ((isNested_node members true h).append (isNested_blank close)).braces
    rwa [List.append_assoc] at hinside
  | literal atom => contradiction
  | string raw => contradiction
  | array elements close => contradiction

theorem lt_of_closingBrace {text : Bytes} {braceCount pos endPos : Nat}
    (h : closingBrace text (braceCount + 1) pos = some endPos)
    : pos < endPos ∧ endPos ≤ pos + text.length := by
  induction text generalizing braceCount pos with
  | nil => contradiction
  | cons c text ih =>
    rw [closingBrace] at h
    rw [List.length_cons]
    split at h
    . have hlt := ih h
      omega
    . split at h
      . cases braceCount with
        | zero =>
          rw [closingBrace, Option.some.injEq] at h
          omega
        | succ braceCount =>
          have hlt := ih h
          omega
      . have hlt := ih h
        omega

theorem forall_prefix_cons (c : UInt8) (text : Bytes) (P : Bytes → Prop)
    : (∀ before, before <+: c :: text → before ≠ c :: text → P before)
        ↔
      P [] ∧ ∀ before, before <+: text → before ≠ text → P (c :: before) := by
  constructor
  . intro h
    refine ⟨h [] List.nil_prefix (List.cons_ne_nil _ _).symm, ?_⟩
    intro before hbefore hproper
    apply h
    . rw [List.cons_prefix_cons]
      exact ⟨rfl, hbefore⟩
    . rwa [ne_eq, List.cons_inj_right]
  . rintro ⟨hnil, hcons⟩ before hbefore hproper
    rcases List.prefix_cons_iff.mp hbefore with rfl | ⟨before', rfl, hbefore'⟩
    . exact hnil
    . apply hcons before' hbefore'
      rwa [ne_eq, List.cons_inj_right] at hproper

/-- What closes a brace that `braceCount` others surround. -/
theorem closingBrace_eq_iff (inside rest : Bytes) (braceCount pos : Nat)
    : closingBrace (inside ++ rest) (braceCount + 1) pos = some (pos + inside.length)
        ↔
      inside.count 125 = braceCount + 1 + inside.count 123
        ∧ ∀ before, before <+: inside → before ≠ inside
          → before.count 125 < braceCount + 1 + before.count 123 := by
  induction inside generalizing braceCount pos with
  | nil =>
    apply iff_of_false
    . intro h
      have hlt := lt_of_closingBrace h
      simp at hlt
    . simp
  | cons c inside ih =>
    have hpos : pos + (c :: inside).length = pos + 1 + inside.length := by
      rw [List.length_cons]
      omega
    rw [forall_prefix_cons, List.cons_append, closingBrace, hpos]
    by_cases hopen : c = 123
    . rw [if_pos hopen, ih, hopen]
      simp only [count_openBrace, List.count_nil]
      constructor
      . rintro ⟨hcount, hproper⟩
        refine ⟨by omega, by omega, ?_⟩
        intro before hbefore hne
        have hlt := hproper before hbefore hne
        omega
      . rintro ⟨hcount, _, hproper⟩
        refine ⟨by omega, ?_⟩
        intro before hbefore hne
        have hlt := hproper before hbefore hne
        omega
    . rw [if_neg hopen]
      by_cases hclose : c = 125
      . rw [if_pos hclose, hclose]
        simp only [count_closeBrace, List.count_nil]
        cases braceCount with
        | zero =>
          rw [closingBrace, Option.some.injEq]
          constructor
          . intro hlength
            have hnil : inside = [] := List.length_eq_zero_iff.mp (by omega)
            simp [hnil]
          . rintro ⟨_, _, hproper⟩
            by_cases hnil : inside = []
            . simp [hnil]
            . have hlt := hproper [] List.nil_prefix (Ne.symm hnil)
              simp at hlt
        | succ braceCount =>
          rw [ih]
          constructor
          . rintro ⟨hcount, hproper⟩
            refine ⟨by omega, by omega, ?_⟩
            intro before hbefore hne
            have hlt := hproper before hbefore hne
            omega
          . rintro ⟨hcount, _, hproper⟩
            refine ⟨by omega, ?_⟩
            intro before hbefore hne
            have hlt := hproper before hbefore hne
            omega
      . rw [if_neg hclose, ih]
        simp only [List.count_cons_of_ne hopen, List.count_cons_of_ne hclose, List.count_nil]
        constructor
        . rintro ⟨hcount, hproper⟩
          exact ⟨hcount, by omega, hproper⟩
        . rintro ⟨hcount, _, hproper⟩
          exact ⟨hcount, hproper⟩

theorem closesAtEnd_cons_iff (inside : Bytes)
    : ClosesAtEnd (123 :: inside)
        ↔
      inside.count 125 = 0 + 1 + inside.count 123
        ∧ ∀ before, before <+: inside → before ≠ inside
          → before.count 125 < 0 + 1 + before.count 123 := by
  have hproper : (∀ before, before <+: 123 :: inside → before ≠ [] → before ≠ 123 :: inside
        → before.count 125 < before.count 123)
      ↔
    ∀ before, before <+: 123 :: inside → before ≠ 123 :: inside
      → before ≠ [] → before.count 125 < before.count 123 :=
    forall_congr' fun before => imp_congr_right fun _ => forall_comm
  unfold ClosesAtEnd
  rw [hproper, forall_prefix_cons]
  simp only [count_openBrace, ne_eq, not_true_eq_false, false_implies, true_and, List.cons_ne_nil,
    not_false_eq_true, true_implies, Nat.zero_add, Nat.add_comm 1]

end NetmonPlugins

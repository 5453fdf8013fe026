import NetmonPlugins.Common.JsonUtils.Fallback

/-!
This module determines when the typed JSON lookups agree with the text lookups.
-/

namespace NetmonPlugins

open Regex

/-- A key, or the keys of a path with dots between them, as the checks pass them. -/
structure KeyPath where
  bytes : Bytes
  plain : ∀ c ∈ bytes, isIdentifierByte c = true ∨ c = 46

def textLookup (json key : Bytes) : Bytes :=
  if contains key (str ".") then
    extractJsonNestedValue json key
  else
    extractJsonValue json key

def IsTrue (text : Bytes) : Prop := text.map toLower = str "true" ∨ text = str "1"

structure TypedAgrees (json key : Bytes) : Prop where
  number : ∀ d : Decimal, textLookup json key = d.text → extractJsonNumber json key = .fin d.value
  noNumber : textLookup json key = [] → extractJsonNumber json key = 0
  boolean : extractJsonBoolean json key = true ↔ IsTrue (textLookup json key)

/-- The member that is named like the whole path is true, or where it has no text, the first word
`true` or `false` behind that name in any letter case is. -/
def NamedTrue (json key : Bytes) : Prop :=
  if memberText json key = [] then
    firstBehind (ignoringCase key) leadingWord json = some true
  else
    IsTrue (memberText json key)

structure NoLookAlike (json key : Bytes) : Prop where
  range : ∀ d : Decimal, textLookup json key = d.text → strtod.isOutOfRange d.magnitude = false
  number : textLookup json key = []
    → ∀ d, firstBehind (exactly (leafKey key)) Decimal.leading json = some d
      → d.magnitude = 0 ∨ strtod.isOutOfRange d.magnitude = true
  boolean : (46 : UInt8) ∉ key → textLookup json key = []
    → firstBehind (ignoringCase key) leadingWord json ≠ some true
  path : (46 : UInt8) ∈ key → (NamedTrue json key ↔ IsTrue (textLookup json key))

variable {json key : Bytes}

theorem toLower_eq_one_iff (text : Bytes) : text.map toLower = str "1" ↔ text = str "1" := by
  have hbyte : ∀ c : UInt8, toLower c = 49 → c = 49 := by
    intro c hc
    unfold toLower at hc
    grind
  constructor
  . intro h
    cases text with
    | nil => simp [str] at h
    | cons c text =>
      obtain ⟨hc, htext⟩ := List.cons.inj h
      rw [hbyte c hc, List.map_eq_nil_iff.mp htext]
      rfl
  . intro h
    rw [h]
    decide

theorem extractJsonBoolean_iff (json key : Bytes)
    : extractJsonBoolean json key = true ↔ NamedTrue json key := by
  unfold extractJsonBoolean NamedTrue
  dsimp only
  rw [extractJsonValue_eq_memberText, Bool.or_eq_true, decide_eq_true_eq, decide_eq_true_eq]
  split
  . rw [toLower_unquotedBoolean]
    cases firstBehind (ignoringCase key) leadingWord json with
    | none => decide
    | some value =>
      cases value with
      | false => decide
      | true => decide
  . rw [toLower_eq_one_iff]
    rfl

/-- The number that a text ends up as. -/
def numberOf (value : Bytes) : Double :=
  if value = [] then
    0
  else
    match stod value with
    | .ok number => number
    | .error _ => 0

theorem extractJsonNumber_eq (json key : Bytes)
    : extractJsonNumber json key
        =
      numberOf (if textLookup json key = [] then unquotedNumber json (leafKey key)
        else textLookup json key) := by
  rfl

theorem numberOf_text (d : Decimal)
    : numberOf d.text = if strtod.isOutOfRange d.magnitude then 0 else .fin d.value := by
  unfold numberOf
  rw [if_neg d.text_ne_nil, d.stod_text]
  by_cases hrange : strtod.isOutOfRange d.magnitude = true
  . rw [if_pos hrange, if_pos hrange]
  . rw [if_neg hrange, if_neg hrange]

theorem isOutOfRange_zero : strtod.isOutOfRange 0 = false := by
  decide +kernel

theorem numberOf_text_eq_zero_iff (d : Decimal)
    : numberOf d.text = 0 ↔ d.magnitude = 0 ∨ strtod.isOutOfRange d.magnitude = true := by
  rw [numberOf_text]
  split
  . next hrange => exact iff_of_true rfl (.inr hrange)
  . next hrange =>
    have hvalue : d.value = 0 ↔ d.magnitude = 0 := by
      unfold Decimal.value
      split
      . exact neg_eq_zero
      . rfl
    rw [Double.ofNat_eq_fin, Double.fin.injEq, Nat.cast_zero, hvalue]
    simp [hrange]

theorem numberOf_text_eq_iff (d : Decimal)
    : numberOf d.text = .fin d.value ↔ strtod.isOutOfRange d.magnitude = false := by
  rw [← Bool.not_eq_true]
  constructor
  . intro h hrange
    have hzero := (numberOf_text_eq_zero_iff d).mpr (.inr hrange)
    rw [h, Double.ofNat_eq_fin, Double.fin.injEq, Nat.cast_zero] at hzero
    unfold Decimal.value at hzero
    have hmagnitude : d.magnitude = 0 := by
      split at hzero
      . exact neg_eq_zero.mp hzero
      . exact hzero
    rw [hmagnitude, isOutOfRange_zero] at hrange
    contradiction
  . intro hrange
    rw [numberOf_text, if_neg hrange]

theorem extractJsonNumber_of_ne (h : textLookup json key ≠ [])
    : extractJsonNumber json key = numberOf (textLookup json key) := by
  rw [extractJsonNumber_eq, if_neg h]

theorem extractJsonNumber_eq_zero_iff (h : textLookup json key = [])
    : extractJsonNumber json key = 0
        ↔
      ∀ d, firstBehind (exactly (leafKey key)) Decimal.leading json = some d
        → d.magnitude = 0 ∨ strtod.isOutOfRange d.magnitude = true := by
  rw [extractJsonNumber_eq, if_pos h, unquotedNumber_eq json (notMem_leafKey key)]
  cases hfirst : firstBehind (exactly (leafKey key)) Decimal.leading json with
  | none => exact iff_of_true rfl (by simp)
  | some d =>
    simp only [Option.some.injEq, forall_eq']
    exact numberOf_text_eq_zero_iff d

theorem contains_dot_iff (key : Bytes) : contains key (str ".") = true ↔ (46 : UInt8) ∈ key := by
  rw [contains_iff_isInfix]
  exact List.singleton_infix_iff 46 key

theorem textLookup_of_notMem (hkey : (46 : UInt8) ∉ key)
    : textLookup json key = extractJsonValue json key := by
  unfold textLookup
  rw [if_neg]
  rw [contains_dot_iff]
  exact hkey

theorem namedTrue_iff_of_notMem (hkey : (46 : UInt8) ∉ key)
    : (NamedTrue json key ↔ IsTrue (textLookup json key))
        ↔
      (textLookup json key = [] → firstBehind (ignoringCase key) leadingWord json ≠ some true) := by
  unfold NamedTrue
  rw [textLookup_of_notMem hkey, extractJsonValue_eq_memberText]
  split
  . next hnil =>
    rw [hnil]
    have hfalse : ¬ IsTrue [] := by
      unfold IsTrue
      decide
    simp [hfalse]
  . next hne => exact iff_of_true Iff.rfl fun h => absurd h hne

/-- The typed lookups agree with the text lookup where it finds the number or no look-alike. -/
theorem typedAgrees_iff (json : Bytes) (key : KeyPath)
    : TypedAgrees json key.bytes ↔ NoLookAlike json key.bytes := by
  constructor
  . intro h
    refine ⟨?_, ?_, ?_, ?_⟩
    . intro d hd
      have hnumber := h.number d hd
      rw [extractJsonNumber_of_ne (by rw [hd]; exact d.text_ne_nil), hd] at hnumber
      exact (numberOf_text_eq_iff d).mp hnumber
    . intro hnil
      exact (extractJsonNumber_eq_zero_iff hnil).mp (h.noNumber hnil)
    . intro hkey
      apply (namedTrue_iff_of_notMem hkey).mp
      rw [← extractJsonBoolean_iff]
      exact h.boolean
    . intro _
      rw [← extractJsonBoolean_iff]
      exact h.boolean
  . intro h
    refine ⟨?_, ?_, ?_⟩
    . intro d hd
      rw [extractJsonNumber_of_ne (by rw [hd]; exact d.text_ne_nil), hd]
      exact (numberOf_text_eq_iff d).mpr (h.range d hd)
    . intro hnil
      exact (extractJsonNumber_eq_zero_iff hnil).mpr (h.number hnil)
    . rw [extractJsonBoolean_iff]
      by_cases hkey : (46 : UInt8) ∈ key.bytes
      . exact h.path hkey
      . exact (namedTrue_iff_of_notMem hkey).mpr (h.boolean hkey)

def enabledKey : KeyPath where
  bytes := str "enabled"
  plain := by simp [str, isIdentifierByte]

def anotherCase : Bytes := str "\x7b\"Enabled\":true\x7d"

def leafPath : KeyPath where
  bytes := str "a" ++ (str "." ++ str "n")
  plain := by simp [str, isIdentifierByte]

def anotherObject : Bytes := str "\x7b\"a\":\x7b\x7d,\"b\":\x7b\"n\":5\x7d\x7d"

/-- A member of another letter case, and a member of the same leaf name in another object. -/
theorem not_typedAgrees_lookAlikes
    : textLookup anotherCase enabledKey.bytes = []
        ∧
      extractJsonBoolean anotherCase enabledKey.bytes = true
        ∧
      ¬ TypedAgrees anotherCase enabledKey.bytes
        ∧
      textLookup anotherObject leafPath.bytes = []
        ∧
      extractJsonNumber anotherObject leafPath.bytes = 5
        ∧
      ¬ TypedAgrees anotherObject leafPath.bytes := by
  have hcase : textLookup anotherCase enabledKey.bytes = [] := by decide
  have htrue : extractJsonBoolean anotherCase enabledKey.bytes = true := by decide
  have hobject : textLookup anotherObject leafPath.bytes = [] := by
    have hnested : nestedJson anotherObject (str "a") = some (str "\x7b\x7d") := by decide
    unfold textLookup
    rw [if_pos (by decide)]
    show extractJsonNestedValue anotherObject (str "a" ++ (str "." ++ str "n")) = []
    rw [extractJsonNestedValue_of_path (by decide), hnested]
    dsimp only
    rw [extractJsonNestedValue_of_key (by decide)]
    decide
  have hfive : extractJsonNumber anotherObject leafPath.bytes = 5 := by
    rw [extractJsonNumber_eq, if_pos hobject]
    decide +kernel
  refine ⟨hcase, htrue, ?_, hobject, hfive, ?_⟩
  . intro h
    have hlookup := h.boolean.mp htrue
    rw [hcase] at hlookup
    revert hlookup
    unfold IsTrue
    decide
  . intro h
    have hzero := h.noNumber hobject
    rw [hfive] at hzero
    revert hzero
    decide +kernel

end NetmonPlugins

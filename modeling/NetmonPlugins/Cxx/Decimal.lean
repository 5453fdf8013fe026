import Mathlib.Tactic.FieldSimp
import Mathlib.Tactic.Linarith
import Mathlib.Tactic.Positivity
import NetmonPlugins.Cxx.Digits
import NetmonPlugins.Cxx.Strtod

/-!
This module contains the decimal numerals and what `std::stod` reads of them.
-/

namespace NetmonPlugins

def signText : Option Bool → Bytes
  | none => []
  | some false => [43]
  | some true => [45]

namespace Decimal

structure Exponent where
  mark : UInt8
  sign : Option Bool
  digits : Bytes
  mark_eq : mark = 101 ∨ mark = 69
  digits_ne_nil : digits ≠ []
  isDigit_digits : ∀ c ∈ digits, isDigit c = true

def Exponent.text (exponent : Exponent) : Bytes :=
  exponent.mark :: (signText exponent.sign ++ exponent.digits)

def Exponent.value (exponent : Exponent) : Int :=
  if exponent.sign = some true then -digitsValue exponent.digits else digitsValue exponent.digits

end Decimal

structure Decimal where
  sign : Option Bool
  whole : Bytes
  fraction : Option Bytes
  exponent : Option Decimal.Exponent
  digits_ne_nil : whole ++ fraction.getD [] ≠ []
  isDigit_whole : ∀ c ∈ whole, isDigit c = true
  isDigit_fraction : ∀ c ∈ fraction.getD [], isDigit c = true

namespace Decimal

def fractionText (d : Decimal) : Bytes := d.fraction.elim [] (46 :: ·)

def exponentText (d : Decimal) : Bytes := d.exponent.elim [] Exponent.text

def unsignedText (d : Decimal) : Bytes := d.whole ++ (d.fractionText ++ d.exponentText)

def text (d : Decimal) : Bytes := signText d.sign ++ d.unsignedText

def magnitude (d : Decimal) : ℚ :=
  digitsValue (d.whole ++ d.fraction.getD [])
    * 10 ^ (d.exponent.elim 0 Exponent.value - (d.fraction.getD []).length)

def value (d : Decimal) : ℚ := if d.sign = some true then -d.magnitude else d.magnitude

theorem isDigit_noFraction : ∀ c ∈ (none : Option Bytes).getD [], isDigit c = true := by
  simp

theorem scale_eq (base mantissa : Nat) (exponent : Int)
    : strtod.scale base mantissa exponent = mantissa * (base : ℚ) ^ exponent := by
  unfold strtod.scale
  split
  . next h =>
    obtain ⟨n, rfl⟩ := Int.eq_ofNat_of_zero_le h
    simp
  . next h =>
    obtain ⟨n, hn⟩ := Int.eq_ofNat_of_zero_le (a := -exponent) (by omega)
    have hexponent : exponent = -(n : Int) := by omega
    rw [hexponent, zpow_neg, neg_neg]
    simp [div_eq_mul_inv]

theorem takeSign_signText {sign : Option Bool} {text : Bytes}
    (h : ∀ c ∈ text.head?, c ≠ 43 ∧ c ≠ 45)
    : takeSign (signText sign ++ text) = (decide (sign = some true), text) := by
  match sign with
  | some false => rfl
  | some true => rfl
  | none =>
    cases text with
    | nil => rfl
    | cons c text =>
      have hc := h c rfl
      unfold takeSign
      split
      . next heq => exact absurd (List.cons.inj heq).1 hc.1
      . next heq => exact absurd (List.cons.inj heq).1 hc.2
      . rfl

theorem isDigit_ne {c : UInt8} (h : isDigit c = true)
    : c ≠ 43 ∧ c ≠ 45 ∧ c ≠ 46 ∧ isSpace c = false := by
  unfold isDigit at h
  unfold isSpace
  grind

theorem takeExponent_text (exponent : Exponent)
    : strtod.takeExponent 101 exponent.text = exponent.value := by
  have hmark : toLower exponent.mark = 101 := by
    rcases exponent.mark_eq with h | h
    . rw [h]
      rfl
    . rw [h]
      rfl
  have hhead : ∀ c ∈ exponent.digits.head?, c ≠ 43 ∧ c ≠ 45 := by
    intro c hc
    have hdigit := isDigit_ne (exponent.isDigit_digits c (List.mem_of_mem_head? hc))
    exact ⟨hdigit.1, hdigit.2.1⟩
  have hdigits : exponent.digits.takeWhile isDigit = exponent.digits :=
    List.takeWhile_eq_self_iff.mpr exponent.isDigit_digits
  unfold Exponent.text strtod.takeExponent
  dsimp only
  rw [if_pos hmark, takeSign_signText hhead]
  simp only [hdigits, decide_eq_true_eq]
  rfl

variable (d : Decimal)

theorem head_exponentText : ∀ c ∈ d.exponentText.head?, isDigit c = false ∧ c ≠ 46 := by
  unfold exponentText
  cases d.exponent with
  | none => simp
  | some exponent =>
    rcases exponent.mark_eq with h | h
    . simp [Exponent.text, h, isDigit]
    . simp [Exponent.text, h, isDigit]

theorem isDigit_head : ∀ c ∈ (d.fractionText ++ d.exponentText).head?, isDigit c = false := by
  unfold fractionText
  cases d.fraction with
  | some digits => simp [isDigit]
  | none =>
    intro c hc
    apply (d.head_exponentText c hc).1

theorem takeFraction_text
    : strtod.takeFraction isDigit (d.fractionText ++ d.exponentText)
        =
      (d.fraction.getD [], d.exponentText) := by
  have hexponent := d.head_exponentText
  have hfraction := d.isDigit_fraction
  unfold fractionText
  cases hdigits : d.fraction with
  | some digits =>
    rw [hdigits] at hfraction
    change ∀ c ∈ digits, isDigit c = true at hfraction
    show ((digits ++ d.exponentText).takeWhile isDigit, (digits ++ d.exponentText).dropWhile isDigit)
      = (digits, d.exponentText)
    rw [takeWhile_append_of_head hfraction (fun c hc => (hexponent c hc).1),
      dropWhile_append_of_head hfraction (fun c hc => (hexponent c hc).1)]
  | none =>
    show strtod.takeFraction isDigit d.exponentText = ([], d.exponentText)
    unfold strtod.takeFraction
    split
    . next heq => exact absurd rfl (hexponent 46 (by rw [heq]; rfl)).2
    . rfl

theorem read_unsignedText : strtod.decimal.read d.unsignedText = some d.magnitude := by
  have hexponent : strtod.takeExponent 101 d.exponentText = d.exponent.elim 0 Exponent.value := by
    unfold exponentText
    cases d.exponent with
    | none => rfl
    | some exponent => exact takeExponent_text exponent
  have hwhole : d.unsignedText.takeWhile isDigit = d.whole :=
    takeWhile_append_of_head d.isDigit_whole d.isDigit_head
  have hrest : d.unsignedText.dropWhile isDigit = d.fractionText ++ d.exponentText :=
    dropWhile_append_of_head d.isDigit_whole d.isDigit_head
  unfold strtod.Notation.read
  simp only [strtod.decimal, hwhole, hrest, takeFraction_text, hexponent, if_neg d.digits_ne_nil,
    scale_eq]
  simp [magnitude]

theorem mem_unsignedText {c : UInt8} (h : c ∈ d.unsignedText)
    : isDigit c = true ∨ c = 43 ∨ c = 45 ∨ c = 46 ∨ c = 101 ∨ c = 69 := by
  unfold unsignedText fractionText exponentText at h
  rw [List.mem_append, List.mem_append] at h
  rcases h with h | h | h
  . exact .inl (d.isDigit_whole c h)
  . have hfraction := d.isDigit_fraction
    cases hdigits : d.fraction with
    | none => simp [hdigits] at h
    | some digits =>
      rw [hdigits] at h hfraction
      rcases List.mem_cons.mp h with h | h
      . exact .inr (.inr (.inr (.inl h)))
      . exact .inl (hfraction c h)
  . cases hexponent : d.exponent with
    | none => simp [hexponent] at h
    | some exponent =>
      rw [hexponent] at h
      change c ∈ exponent.mark :: (signText exponent.sign ++ exponent.digits) at h
      rw [List.mem_cons, List.mem_append] at h
      rcases h with h | h | h
      . rw [h]
        exact .inr (.inr (.inr (.inr exponent.mark_eq)))
      . match hsign : exponent.sign with
        | none => simp [hsign, signText] at h
        | some false => exact .inr (.inl (by simpa [hsign, signText] using h))
        | some true => exact .inr (.inr (.inl (by simpa [hsign, signText] using h)))
      . exact .inl (exponent.isDigit_digits c h)

theorem toLower_of_mem {c : UInt8} (h : c ∈ d.unsignedText)
    : toLower c ≠ 120 ∧ toLower c ≠ 105 ∧ toLower c ≠ 110 := by
  rcases d.mem_unsignedText h with hdigit | rfl | rfl | rfl | rfl | rfl
  . unfold isDigit at hdigit
    unfold toLower
    grind
  . decide
  . decide
  . decide
  . decide
  . decide

theorem head_unsignedText : ∀ c ∈ d.unsignedText.head?, c ≠ 43 ∧ c ≠ 45 ∧ isSpace c = false := by
  have hdigits := d.digits_ne_nil
  intro c hc
  unfold unsignedText fractionText at hc
  cases hwhole : d.whole with
  | cons b whole =>
    rw [hwhole, List.cons_append, List.head?_cons, Option.mem_some] at hc
    have hb := isDigit_ne (d.isDigit_whole b (by simp [hwhole]))
    rw [← hc]
    exact ⟨hb.1, hb.2.1, hb.2.2.2⟩
  | nil =>
    cases hfraction : d.fraction with
    | none => simp [hwhole, hfraction] at hdigits
    | some digits =>
      have hc : 46 = c := by simpa [hwhole, hfraction] using hc
      rw [← hc]
      decide

theorem magnitude_unsignedText : strtod.magnitude d.unsignedText = some (.fin d.magnitude) := by
  have hnot : ∀ (word : Bytes) (count : Nat) (c : UInt8), c ∈ word → c = 120 ∨ c = 105 ∨ c = 110
      → (d.unsignedText.take count).map toLower ≠ word := by
    intro word count c hc hletter heq
    rw [← heq, List.mem_map] at hc
    obtain ⟨b, hb, rfl⟩ := hc
    have hlower := d.toLower_of_mem (List.mem_of_mem_take hb)
    rcases hletter with h | h | h
    . exact hlower.1 h
    . exact hlower.2.1 h
    . exact hlower.2.2 h
  unfold strtod.magnitude strtod.readNumeral
  rw [if_neg (hnot _ _ 105 (by decide) (by decide)), if_neg (hnot _ _ 110 (by decide) (by decide)),
    if_neg (hnot _ _ 120 (by decide) (by decide)), read_unsignedText]
  rfl

theorem text_ne_nil : d.text ≠ [] := by
  have hdigits := d.digits_ne_nil
  intro h
  unfold text unsignedText fractionText at h
  rw [List.append_eq_nil_iff, List.append_eq_nil_iff, List.append_eq_nil_iff] at h
  cases hfraction : d.fraction with
  | none => simp [hfraction, h.2.1] at hdigits
  | some digits => simp [hfraction] at h

/-- A decimal numeral is read as the number it denotes, unless this is out of range. -/
theorem stod_text
    : stod d.text
        =
      if strtod.isOutOfRange d.magnitude then .error (.outOfRange (str "stod"))
      else .ok (.fin d.value) := by
  have hhead : ∀ c ∈ d.unsignedText.head?, c ≠ 43 ∧ c ≠ 45 :=
    fun c hc => ⟨(d.head_unsignedText c hc).1, (d.head_unsignedText c hc).2.1⟩
  have hspace : d.text.dropWhile isSpace = d.text := by
    unfold text
    match d.sign with
    | some false => rfl
    | some true => rfl
    | none =>
      exact dropWhile_append_of_head (List.forall_mem_nil _)
        fun c hc => (d.head_unsignedText c hc).2.2
  unfold stod
  rw [hspace]
  unfold text
  rw [takeSign_signText hhead]
  dsimp only
  rw [magnitude_unsignedText]
  simp [value]

end Decimal

theorem strtod.isOutOfRange_natCast {n : Nat} (h : n < 2 ^ 64)
    : strtod.isOutOfRange n = false := by
  have hlt : (n : ℚ) < 2 ^ 1024 - 2 ^ 970 := by
    have hcast : (n : ℚ) < 2 ^ 64 := by exact_mod_cast h
    have hbig : (2 : ℚ) ^ 64 ≤ 2 ^ 970 := pow_le_pow_right₀ (by norm_num) (by norm_num)
    have hsplit : (2 : ℚ) ^ 1024 = 2 ^ 970 * 2 ^ 54 := pow_add 2 970 54
    rw [hsplit]
    generalize (2 : ℚ) ^ 970 = x at hbig ⊢
    linarith
  have hnormal : 0 < (n : ℚ) → ¬ (n : ℚ) < 1 / 2 ^ 1022 - 1 / 2 ^ 1076 := by
    intro hpos
    have hone : (1 : ℚ) ≤ n := by exact_mod_cast hpos
    have hle : 1 / (2 : ℚ) ^ 1022 ≤ 1 := by
      rw [div_le_one (by positivity)]
      exact one_le_pow₀ (by norm_num)
    have hsmall : 0 < 1 / (2 : ℚ) ^ 1076 := by positivity
    generalize 1 / (2 : ℚ) ^ 1022 = x at hle ⊢
    generalize 1 / (2 : ℚ) ^ 1076 = y at hsmall ⊢
    linarith
  unfold strtod.isOutOfRange
  rw [decide_eq_false (not_le.mpr hlt), Bool.false_or]
  by_cases hpos : 0 < (n : ℚ)
  . rw [decide_eq_false (hnormal hpos), Bool.and_false, Bool.false_and]
  . rw [decide_eq_false hpos, Bool.false_and, Bool.false_and]

def Decimal.ofInt (m : Int) : Decimal where
  sign := if m < 0 then some true else none
  whole := natDec m.natAbs
  fraction := none
  exponent := none
  digits_ne_nil := by simp [natDec_ne_nil]
  isDigit_whole _ := isDigit_of_mem_natDec
  isDigit_fraction := isDigit_noFraction

theorem Decimal.text_ofInt (m : Int) : (ofInt m).text = intDec m := by
  unfold ofInt text unsignedText fractionText exponentText intDec
  split
  . simp [signText]; rfl
  . simp [signText]

theorem Decimal.magnitude_ofInt (m : Int) : (ofInt m).magnitude = m.natAbs := by
  simp [magnitude, ofInt, digitsValue_natDec]

theorem Decimal.value_ofInt (m : Int) : (ofInt m).value = m := by
  have habs : (m.natAbs : ℚ) = |(m : ℚ)| := by
    rw [← Int.cast_abs, Int.abs_eq_natAbs, Int.cast_natCast]
  unfold value
  rw [magnitude_ofInt, habs]
  by_cases h : m < 0
  . have hcast : (m : ℚ) < 0 := by exact_mod_cast h
    simp [ofInt, h, abs_of_neg hcast]
  . have hcast : 0 ≤ (m : ℚ) := by exact_mod_cast not_lt.mp h
    simp [ofInt, h, abs_of_nonneg hcast]

theorem stod_intDec {m : Int} (h : m.natAbs < 2 ^ 64) : stod (intDec m) = .ok (.fin m) := by
  rw [← Decimal.text_ofInt, Decimal.stod_text, Decimal.magnitude_ofInt,
    strtod.isOutOfRange_natCast h, Decimal.value_ofInt]
  rfl

end NetmonPlugins

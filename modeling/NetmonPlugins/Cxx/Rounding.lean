import Mathlib.Algebra.Order.Ring.Int
import Mathlib.Data.Int.Log
import Mathlib.Data.Rat.Floor
import Mathlib.Tactic.Linarith

/-!
This module contains the rounding of a rational to the nearest number of a binary floating-point
format, and shows that it keeps the order and the integers that the format has.
-/

namespace NetmonPlugins

/-- A format with so many bits for a number, whose last bit is worth `2 ^ minExponent` at least, and
whose numbers are below `2 ^ maxExponent`. -/
structure Format where
  precision : Nat
  minExponent : Int
  maxExponent : Nat

def binary64 : Format where
  precision := 53
  minExponent := -1074
  maxExponent := 1024

/-- The nearest integer, and the even one of two that are equally near. -/
def nearestEven (q : ℚ) : Int :=
  if q - ⌊q⌋ < 1 / 2 ∨ q - ⌊q⌋ = 1 / 2 ∧ ⌊q⌋ % 2 = 0 then ⌊q⌋ else ⌊q⌋ + 1

theorem nearestEven_intCast (n : Int) : nearestEven n = n := by
  unfold nearestEven
  rw [Int.floor_intCast, if_pos]
  left
  norm_num

theorem floor_le_nearestEven (q : ℚ) : ⌊q⌋ ≤ nearestEven q := by
  unfold nearestEven
  split <;> omega

theorem nearestEven_le_floor_add_one (q : ℚ) : nearestEven q ≤ ⌊q⌋ + 1 := by
  unfold nearestEven
  split <;> omega

theorem nearestEven_mono {a b : ℚ} (h : a ≤ b) : nearestEven a ≤ nearestEven b := by
  rcases (Int.floor_mono h).lt_or_eq with hlt | heq
  . have ha := nearestEven_le_floor_add_one a
    have hb := floor_le_nearestEven b
    omega
  . by_cases hdown : b - ⌊b⌋ < 1 / 2 ∨ b - ⌊b⌋ = 1 / 2 ∧ ⌊b⌋ % 2 = 0
    . have hdown' : a - ⌊a⌋ < 1 / 2 ∨ a - ⌊a⌋ = 1 / 2 ∧ ⌊a⌋ % 2 = 0 := by
        rw [heq]
        rcases hdown with hlt | ⟨htie, heven⟩
        . left
          linarith
        . rcases (sub_le_sub_right h (⌊b⌋ : ℚ)).lt_or_eq with hlt | htie'
          . left
            linarith
          . exact .inr ⟨htie'.trans htie, heven⟩
      unfold nearestEven
      rw [if_pos hdown, if_pos hdown', heq]
    . have ha := nearestEven_le_floor_add_one a
      rw [heq] at ha
      unfold nearestEven at ha ⊢
      rwa [if_neg hdown]

namespace Format

variable (format : Format)

/-- What the last bit of a number near `q` is worth is two to this. -/
def exponent (q : ℚ) : Int :=
  max format.minExponent (Int.log 2 |q| - (format.precision - 1 : Nat))

def round (q : ℚ) : ℚ := nearestEven (q / 2 ^ format.exponent q) * 2 ^ format.exponent q

theorem two_zpow_pos (e : Int) : (0 : ℚ) < 2 ^ e := zpow_pos (by norm_num) e

theorem round_le {q : ℚ} {n : Int} (h : q ≤ n * 2 ^ format.exponent q)
    : format.round q ≤ n * 2 ^ format.exponent q := by
  have hpos := two_zpow_pos (format.exponent q)
  have hle := nearestEven_mono ((div_le_iff₀ hpos).mpr h)
  rw [nearestEven_intCast] at hle
  unfold round
  gcongr

theorem le_round {q : ℚ} {n : Int} (h : n * 2 ^ format.exponent q ≤ q)
    : n * 2 ^ format.exponent q ≤ format.round q := by
  have hpos := two_zpow_pos (format.exponent q)
  have hle := nearestEven_mono ((le_div_iff₀ hpos).mpr h)
  rw [nearestEven_intCast] at hle
  unfold round
  gcongr

@[simp]
theorem round_zero : format.round 0 = 0 := by
  unfold round
  rw [zero_div, ← Int.cast_zero, nearestEven_intCast]
  simp

theorem round_nonneg {q : ℚ} (h : 0 ≤ q) : 0 ≤ format.round q := by
  simpa using @le_round format q 0 (by simpa using h)

theorem round_nonpos {q : ℚ} (h : q ≤ 0) : format.round q ≤ 0 := by
  simpa using @round_le format q 0 (by simpa using h)

/-- A power of two that is not below the last bit is a multiple of it. -/
theorem exists_zpow_eq {e k : Int} (h : e ≤ k) : ∃ n : Int, (2 : ℚ) ^ k = n * 2 ^ e := by
  obtain ⟨j, rfl⟩ := Int.le.dest h
  exists 2 ^ j
  rw [zpow_add₀ (by norm_num), zpow_natCast, mul_comm]
  push_cast
  rfl

theorem round_le_zpow {q : ℚ} {k : Int} (hexponent : format.exponent q ≤ k) (h : q ≤ 2 ^ k)
    : format.round q ≤ 2 ^ k := by
  obtain ⟨n, hn⟩ := exists_zpow_eq hexponent
  rw [hn] at h ⊢
  exact format.round_le h

theorem zpow_le_round {q : ℚ} {k : Int} (hexponent : format.exponent q ≤ k) (h : 2 ^ k ≤ q)
    : 2 ^ k ≤ format.round q := by
  obtain ⟨n, hn⟩ := exists_zpow_eq hexponent
  rw [hn] at h ⊢
  exact format.le_round h

theorem round_le_neg_zpow {q : ℚ} {k : Int} (hexponent : format.exponent q ≤ k) (h : q ≤ -2 ^ k)
    : format.round q ≤ -2 ^ k := by
  obtain ⟨n, hn⟩ := exists_zpow_eq hexponent
  rw [hn, ← neg_mul, ← Int.cast_neg] at h ⊢
  exact format.round_le h

theorem neg_zpow_le_round {q : ℚ} {k : Int} (hexponent : format.exponent q ≤ k) (h : -2 ^ k ≤ q)
    : -2 ^ k ≤ format.round q := by
  obtain ⟨n, hn⟩ := exists_zpow_eq hexponent
  rw [hn, ← neg_mul, ← Int.cast_neg] at h ⊢
  exact format.le_round h

/-- Between numbers whose last bits are worth different amounts lies a power of two. -/
theorem zpow_between {a b : ℚ} (hb : b ≠ 0) (h : format.exponent a < format.exponent b)
    : |a| < 2 ^ Int.log 2 |b|
        ∧ (2 : ℚ) ^ Int.log 2 |b| ≤ |b|
        ∧ format.exponent b ≤ Int.log 2 |b| := by
  have hlog : Int.log 2 |a| + 1 ≤ Int.log 2 |b| := by
    unfold exponent at h
    omega
  have hlt := @Int.lt_zpow_succ_log_self ℚ _ _ _ _ 2 (by decide) |a|
  have hle := @Int.zpow_log_le_self ℚ _ _ _ _ 2 |b| (by decide) (abs_pos.mpr hb)
  refine ⟨?_, ?_, ?_⟩
  . calc |a| < 2 ^ (Int.log 2 |a| + 1) := by exact_mod_cast hlt
      _ ≤ 2 ^ Int.log 2 |b| := zpow_le_zpow_right₀ (by norm_num) hlog
  . exact_mod_cast hle
  . unfold exponent at h ⊢
    omega

theorem round_mono {a b : ℚ} (h : a ≤ b) : format.round a ≤ format.round b := by
  rcases lt_trichotomy (format.exponent a) (format.exponent b) with hlt | heq | hgt
  . by_cases hb : b = 0
    . rw [hb, round_zero]
      exact format.round_nonpos (hb ▸ h)
    . obtain ⟨hbelow, habove, hlog⟩ := format.zpow_between hb hlt
      have hpositive : 2 ^ Int.log 2 |b| ≤ b := by
        rcases le_abs.mp habove with hle | hle
        . exact hle
        . have := (abs_lt.mp hbelow).1
          linarith
      calc format.round a ≤ 2 ^ Int.log 2 |b| :=
            format.round_le_zpow (hlt.le.trans hlog) (abs_lt.mp hbelow).2.le
        _ ≤ format.round b := format.zpow_le_round hlog hpositive
  . have hpos := (two_zpow_pos (format.exponent b)).le
    have hle := nearestEven_mono (div_le_div_of_nonneg_right h hpos)
    unfold round
    rw [heq]
    gcongr
  . by_cases ha : a = 0
    . rw [ha, round_zero]
      exact format.round_nonneg (ha ▸ h)
    . obtain ⟨hbelow, habove, hlog⟩ := format.zpow_between ha hgt
      have hnegative : a ≤ -2 ^ Int.log 2 |a| := by
        rcases le_abs.mp habove with hle | hle
        . have := (abs_lt.mp hbelow).2
          linarith
        . linarith
      calc format.round a ≤ -2 ^ Int.log 2 |a| := format.round_le_neg_zpow hlog hnegative
        _ ≤ format.round b :=
            format.neg_zpow_le_round (hgt.le.trans hlog) (abs_lt.mp hbelow).1.le

theorem exponent_le {q : ℚ} {k : Int} (hexponent : format.minExponent ≤ k) (hk : 0 ≤ k)
    (h : |q| ≤ 2 ^ k)
    : format.exponent q ≤ k := by
  have hlog : Int.log 2 |q| ≤ k := by
    by_cases hzero : q = 0
    . rw [hzero, abs_zero, Int.log_zero_right]
      exact hk
    . have hle := @Int.log_mono_right ℚ _ _ _ _ 2 _ _ (abs_pos.mpr hzero) h
      have hpow := @Int.log_zpow ℚ _ _ _ _ 2 (by decide) k
      rw [Nat.cast_ofNat] at hpow
      rwa [hpow] at hle
  unfold exponent
  omega

theorem abs_round_le {q : ℚ} {k : Int} (hexponent : format.minExponent ≤ k) (hk : 0 ≤ k)
    (h : |q| ≤ 2 ^ k)
    : |format.round q| ≤ 2 ^ k := by
  have hle := format.exponent_le hexponent hk h
  rw [abs_le] at h ⊢
  exact ⟨format.neg_zpow_le_round hle h.1, format.round_le_zpow hle h.2⟩

/-- An integer with no more bits than a number is a number. -/
theorem round_intCast {n : Int} (hexponent : format.minExponent ≤ 0)
    (h : n.natAbs < 2 ^ format.precision)
    : format.round n = n := by
  by_cases hzero : n = 0
  . rw [hzero, Int.cast_zero, round_zero]
  . have hpos : (0 : ℚ) < |(n : ℚ)| := abs_pos.mpr (by exact_mod_cast hzero)
    have habs : |(n : ℚ)| < (2 : ℕ) ^ (format.precision : Int) := by
      rw [← Int.cast_abs, Int.abs_eq_natAbs]
      exact_mod_cast h
    have hlog := (Int.lt_zpow_iff_log_lt (by decide) hpos).mp habs
    have hle : format.exponent n ≤ 0 := by
      unfold exponent
      omega
    obtain ⟨m, hm⟩ := exists_zpow_eq hle
    have hmul : (n : ℚ) = (n * m : Int) * 2 ^ format.exponent n := by
      rw [Int.cast_mul, mul_assoc, ← hm, zpow_zero, mul_one]
    apply le_antisymm
    . exact (format.round_le hmul.le).trans hmul.ge
    . exact hmul.le.trans (format.le_round hmul.ge)

end Format
end NetmonPlugins

import Mathlib.Algebra.Order.Ring.Rat
import Mathlib.Data.Rat.Floor
import NetmonPlugins.Cxx.Rounding

/-!
This module contains the arithmetic of `double`: a value is a rational, an infinity or a NaN. The
operations are exact; what the processor makes of one is its result under `round`. Zero has no sign.
-/

namespace NetmonPlugins

inductive Double where
  | nan
  | inf (negative : Bool)
  | fin (q : ℚ)
  deriving DecidableEq

namespace Double

instance : OfNat Double n where
  ofNat := .fin (n : ℚ)

def ofInt (i : Int) : Double := .fin i

def lt : Double → Double → Bool
  | .nan, _ => false
  | _, .nan => false
  | .inf n, .inf m => n && !m
  | .inf n, .fin _ => n
  | .fin _, .inf m => !m
  | .fin a, .fin b => a < b

/-- `a <= b`, which is no negation of `b < a`: both are false of a NaN. -/
def le : Double → Double → Bool
  | .nan, _ => false
  | _, .nan => false
  | .inf n, .inf m => n || !m
  | .inf n, .fin _ => n
  | .fin _, .inf m => !m
  | .fin a, .fin b => a ≤ b

instance : LT Double where
  lt a b := a.lt b = true

instance : LE Double where
  le a b := a.le b = true

instance (a b : Double) : Decidable (a < b) := inferInstanceAs (Decidable (a.lt b = true))

instance (a b : Double) : Decidable (a ≤ b) := inferInstanceAs (Decidable (a.le b = true))

def sub : Double → Double → Double
  | .nan, _ => .nan
  | _, .nan => .nan
  | .inf n, .inf m => if n = m then .nan else .inf n
  | .inf n, .fin _ => .inf n
  | .fin _, .inf m => .inf (!m)
  | .fin a, .fin b => .fin (a - b)

def add : Double → Double → Double
  | .nan, _ => .nan
  | _, .nan => .nan
  | .inf n, .inf m => if n = m then .inf n else .nan
  | .inf n, .fin _ => .inf n
  | .fin _, .inf m => .inf m
  | .fin a, .fin b => .fin (a + b)

def mul : Double → Double → Double
  | .nan, _ => .nan
  | _, .nan => .nan
  | .inf n, .inf m => .inf (n != m)
  | .inf n, .fin b => if b = 0 then .nan else .inf (n != decide (b < 0))
  | .fin a, .inf m => if a = 0 then .nan else .inf (decide (a < 0) != m)
  | .fin a, .fin b => .fin (a * b)

/-- The divisors here are conversions of an `int`, so a zero divisor is positive. -/
def div : Double → Double → Double
  | .nan, _ => .nan
  | _, .nan => .nan
  | .inf _, .inf _ => .nan
  | .inf n, .fin b => .inf (n != decide (b < 0))
  | .fin _, .inf _ => .fin 0
  | .fin a, .fin b =>
    if b = 0 then (if a = 0 then .nan else .inf (decide (a < 0))) else .fin (a / b)

def abs : Double → Double
  | .nan => .nan
  | .inf _ => .inf false
  | .fin q => .fin |q|

/-- The nearest number of the format, or an infinity beyond the greatest one. -/
def round : Double → Double
  | .nan => .nan
  | .inf negative => .inf negative
  | .fin q =>
    let rounded := binary64.round q
    if |rounded| < 2 ^ binary64.maxExponent then .fin rounded else .inf (decide (q < 0))

/-- The conversion of an integer of up to 64 bits. -/
def ofLongLong (i : Int) : Double := (ofInt i).round

instance : Sub Double := ⟨sub⟩
instance : Add Double := ⟨add⟩
instance : Mul Double := ⟨mul⟩
instance : Div Double := ⟨div⟩

/--
`static_cast<long long>`. The conversion of a NaN and of a value outside the type is undefined and
yields the lowest value on x86-64.
-/
def toLongLong : Double → Int
  | .fin q =>
    let truncated := if 0 ≤ q then ⌊q⌋ else ⌈q⌉
    if -2 ^ 63 ≤ truncated ∧ truncated < 2 ^ 63 then truncated else -2 ^ 63
  | _ => -2 ^ 63

def fitsLongLong : Double → Bool
  | .fin q =>
    let truncated := if 0 ≤ q then ⌊q⌋ else ⌈q⌉
    decide (-2 ^ 63 ≤ truncated ∧ truncated < 2 ^ 63)
  | _ => false

/-- `static_cast<int>`, with the same remark about the values outside the type. -/
def toInt : Double → Int
  | .fin q =>
    let truncated := if 0 ≤ q then ⌊q⌋ else ⌈q⌉
    if -2 ^ 31 ≤ truncated ∧ truncated < 2 ^ 31 then truncated else -2 ^ 31
  | _ => -2 ^ 31

@[simp]
theorem ofNat_eq_fin (n : Nat) : (OfNat.ofNat n : Double) = .fin (n : ℚ) := rfl

@[simp]
theorem ofInt_eq_fin (i : Int) : ofInt i = .fin (i : ℚ) := rfl

@[simp]
theorem fin_lt_fin (a b : ℚ) : Double.fin a < .fin b ↔ a < b := by
  simp [LT.lt, lt]

@[simp]
theorem fin_le_fin (a b : ℚ) : Double.fin a ≤ .fin b ↔ a ≤ b := by
  simp [LE.le, le]

theorem lt_asymm {a b : Double} (h : a < b) : ¬ b < a := by
  cases a with
  | nan => simp [LT.lt, lt] at h
  | inf n =>
    cases b with
    | nan => simp [LT.lt, lt] at h
    | inf m => revert h; cases n <;> cases m <;> decide
    | fin q => revert h; cases n <;> simp [LT.lt, lt]
  | fin p =>
    cases b with
    | nan => simp [LT.lt, lt] at h
    | inf m => revert h; cases m <;> simp [LT.lt, lt]
    | fin q =>
      rw [fin_lt_fin] at *
      exact not_lt_of_gt h

theorem le_trans {a b c : Double} (hab : a ≤ b) (hbc : b ≤ c) : a ≤ c := by
  revert hab hbc
  cases a with
  | nan => simp [LE.le, le]
  | inf n => cases b <;> cases c <;> cases n <;> simp +contextual [LE.le, le]
  | fin p =>
    cases b with
    | nan => simp [LE.le, le]
    | inf m => cases c <;> cases m <;> simp +contextual [LE.le, le]
    | fin q =>
      cases c with
      | nan => simp [LE.le, le]
      | inf k => simp [LE.le, le]
      | fin r =>
        simp only [fin_le_fin]
        exact Rat.le_trans

theorem lt_of_le_of_lt {a b c : Double} (hab : a ≤ b) (hbc : b < c) : a < c := by
  revert hab hbc
  cases a with
  | nan => simp [LE.le, le]
  | inf n => cases b <;> cases c <;> cases n <;> simp +contextual [LE.le, le, LT.lt, lt]
  | fin p =>
    cases b with
    | nan => simp [LE.le, le]
    | inf m => cases c <;> cases m <;> simp +contextual [LE.le, le, LT.lt, lt]
    | fin q =>
      cases c with
      | nan => simp [LT.lt, lt]
      | inf k => simp [LT.lt, lt]
      | fin r =>
        simp only [fin_le_fin, fin_lt_fin]
        exact Std.lt_of_le_of_lt

theorem le_of_lt {a b : Double} (h : a < b) : a ≤ b := by
  cases a with
  | nan => simp [LT.lt, lt] at h
  | inf n => revert h; cases b <;> cases n <;> simp +contextual [LT.lt, lt, LE.le, le]
  | fin p =>
    cases b with
    | nan => simp [LT.lt, lt] at h
    | inf m => revert h; cases m <;> simp [LT.lt, lt, LE.le, le]
    | fin q =>
      rw [fin_lt_fin] at h
      rw [fin_le_fin]
      exact h.le

/-- The order is total apart from the NaN. -/
theorem le_of_not_lt {a b : Double} (ha : a ≠ .nan) (hb : b ≠ .nan) (h : ¬ a < b) : b ≤ a := by
  cases a with
  | nan => contradiction
  | inf n =>
    cases b with
    | nan => contradiction
    | inf m => revert h; cases n <;> cases m <;> decide
    | fin q => revert h; cases n <;> simp [LT.lt, lt, LE.le, le]
  | fin p =>
    cases b with
    | nan => contradiction
    | inf m => revert h; cases m <;> simp [LT.lt, lt, LE.le, le]
    | fin q =>
      rw [fin_lt_fin, not_lt] at h
      rwa [fin_le_fin]

@[simp]
theorem not_nan_lt (a : Double) : ¬ (.nan < a) := by
  simp [LT.lt, lt]

@[simp]
theorem not_lt_nan (a : Double) : ¬ (a < .nan) := by
  cases a <;> simp [LT.lt, lt]

@[simp]
theorem not_nan_le (a : Double) : ¬ (.nan ≤ a) := by
  simp [LE.le, le]

@[simp]
theorem not_le_nan (a : Double) : ¬ (a ≤ .nan) := by
  cases a <;> simp [LE.le, le]

@[simp]
theorem fin_sub_fin (a b : ℚ) : Double.fin a - .fin b = .fin (a - b) := rfl

@[simp]
theorem fin_add_fin (a b : ℚ) : Double.fin a + .fin b = .fin (a + b) := rfl

@[simp]
theorem fin_mul_fin (a b : ℚ) : Double.fin a * .fin b = .fin (a * b) := rfl

theorem round_fin_of_lt {q : ℚ} (h : |binary64.round q| < 2 ^ binary64.maxExponent)
    : (Double.fin q).round = .fin (binary64.round q) := by
  unfold round
  dsimp only
  rw [if_pos h]

theorem round_fin_of_le {q : ℚ} (h : 2 ^ binary64.maxExponent ≤ |binary64.round q|)
    : (Double.fin q).round = .inf (decide (q < 0)) := by
  unfold round
  dsimp only
  rw [if_neg (not_lt.mpr h)]

theorem round_ne_nan {a : Double} (h : a ≠ .nan) : a.round ≠ .nan := by
  cases a with
  | nan => contradiction
  | inf negative => exact h
  | fin q =>
    unfold round
    dsimp only
    split <;> simp

theorem le_inf {a : Double} (h : a ≠ .nan) : a ≤ .inf false := by
  cases a with
  | nan => contradiction
  | inf negative => simp [LE.le, le]
  | fin q => simp [LE.le, le]

theorem neg_inf_le {a : Double} (h : a ≠ .nan) : .inf true ≤ a := by
  cases a with
  | nan => contradiction
  | inf negative => simp [LE.le, le]
  | fin q => simp [LE.le, le]

theorem round_fin_mono {p q : ℚ} (h : p ≤ q) : (Double.fin p).round ≤ (Double.fin q).round := by
  have hround := binary64.round_mono h
  by_cases hp : |binary64.round p| < 2 ^ binary64.maxExponent
  . by_cases hq : |binary64.round q| < 2 ^ binary64.maxExponent
    . rw [round_fin_of_lt hp, round_fin_of_lt hq, fin_le_fin]
      exact hround
    . have hnonneg : ¬ q < 0 := by
        intro hneg
        have hnonpos := binary64.round_nonpos hneg.le
        rw [abs_of_nonpos hnonpos] at hq
        rw [abs_of_nonpos (hround.trans hnonpos)] at hp
        linarith
      rw [round_fin_of_le (not_lt.mp hq), decide_eq_false hnonneg]
      exact le_inf (round_ne_nan (by simp))
  . rw [round_fin_of_le (not_lt.mp hp)]
    by_cases hneg : p < 0
    . rw [decide_eq_true hneg]
      exact neg_inf_le (round_ne_nan (by simp))
    . have hnonneg := binary64.round_nonneg (not_lt.mp hneg)
      rw [not_lt, abs_of_nonneg hnonneg] at hp
      have hq : 2 ^ binary64.maxExponent ≤ |binary64.round q| := hp.trans (hround.trans (le_abs_self _))
      rw [round_fin_of_le hq, decide_eq_false hneg,
        decide_eq_false (not_lt.mpr ((not_lt.mp hneg).trans h))]
      exact le_inf (by simp)

theorem round_mono {a b : Double} (h : a ≤ b) : a.round ≤ b.round := by
  cases a with
  | nan => simp [LE.le, le] at h
  | inf negative =>
    cases negative with
    | false => cases b <;> simp_all [LE.le, le, round]
    | true =>
      apply neg_inf_le (round_ne_nan _)
      rintro rfl
      simp [LE.le, le] at h
  | fin p =>
    cases b with
    | nan => simp [LE.le, le] at h
    | inf negative =>
      cases negative with
      | false => exact le_inf (round_ne_nan (by simp))
      | true => simp [LE.le, le] at h
    | fin q => exact round_fin_mono ((fin_le_fin p q).mp h)

theorem round_fin_of_abs_le {q : ℚ} (h : |q| ≤ 2 ^ 64)
    : (Double.fin q).round = .fin (binary64.round q) := by
  apply round_fin_of_lt
  calc |binary64.round q| ≤ 2 ^ (64 : Int) :=
        binary64.abs_round_le (by decide) (by decide) (by exact_mod_cast h)
    _ = 2 ^ 64 := by norm_num
    _ < 2 ^ binary64.maxExponent := pow_lt_pow_right₀ (by norm_num) (by decide)

theorem ofLongLong_eq_fin {i : Int} (h : i.natAbs ≤ 2 ^ 64)
    : ofLongLong i = .fin (binary64.round i) := by
  apply round_fin_of_abs_le
  rw [← Int.cast_abs, Int.abs_eq_natAbs]
  exact_mod_cast h

theorem ofLongLong_of_lt {i : Int} (h : i.natAbs < 2 ^ 53) : ofLongLong i = .fin i := by
  rw [ofLongLong_eq_fin (by omega), binary64.round_intCast (by decide) h]

theorem round_pos_of_pos {i : Int} (h : 0 < i) : 0 < binary64.round i := by
  have hone : binary64.round ((1 : Int) : ℚ) = (1 : Int) :=
    binary64.round_intCast (by decide) (by decide)
  have hle : ((1 : Int) : ℚ) ≤ i := by exact_mod_cast h
  have hround := binary64.round_mono hle
  rw [hone, Int.cast_one] at hround
  linarith

theorem ofLongLong_mono {i j : Int} (h : i ≤ j) : ofLongLong i ≤ ofLongLong j := by
  apply round_mono
  rw [ofInt_eq_fin, ofInt_eq_fin, fin_le_fin]
  exact_mod_cast h

theorem div_fin_mono {a b : Double} {c : ℚ} (hc : 0 < c) (h : a ≤ b) : a / .fin c ≤ b / .fin c := by
  show (a.div (.fin c)).le (b.div (.fin c)) = true
  have h : a.le b = true := h
  cases a with
  | nan => simp [le] at h
  | inf n => cases b <;> cases n <;> simp_all [le, div, hc.ne', hc.le]
  | fin p =>
    cases b with
    | nan => simp [le] at h
    | inf m => cases m <;> simp_all [le, div, hc.ne', hc.le]
    | fin q =>
      simp only [le, decide_eq_true_eq, div, hc.ne', if_false] at h ⊢
      gcongr

theorem mul_fin_mono {a b : Double} {c : ℚ} (hc : 0 < c) (h : a ≤ b) : a * .fin c ≤ b * .fin c := by
  show (a.mul (.fin c)).le (b.mul (.fin c)) = true
  have h : a.le b = true := h
  cases a with
  | nan => simp [le] at h
  | inf n => cases b <;> cases n <;> simp_all [le, mul, hc.ne', hc.le]
  | fin p =>
    cases b with
    | nan => simp [le] at h
    | inf m => cases m <;> simp_all [le, mul, hc.ne', hc.le]
    | fin q =>
      simp only [le, decide_eq_true_eq, mul] at h ⊢
      gcongr

theorem fin_sub_anti {a b : Double} {c : ℚ} (h : a ≤ b) : .fin c - b ≤ .fin c - a := by
  show (sub (.fin c) b).le (sub (.fin c) a) = true
  have h : a.le b = true := h
  cases a with
  | nan => simp [le] at h
  | inf n => cases b <;> cases n <;> simp_all [le, sub]
  | fin p =>
    cases b with
    | nan => simp [le] at h
    | inf m => cases m <;> simp_all [le, sub]
    | fin q =>
      simp only [le, decide_eq_true_eq, sub] at h ⊢
      linarith

theorem fin_div_fin (a b : ℚ) (h : b ≠ 0) : Double.fin a / .fin b = .fin (a / b) := by
  show div (.fin a) (.fin b) = _
  simp [div, h]

end Double
end NetmonPlugins

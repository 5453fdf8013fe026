import Mathlib.Data.Nat.ModEq

/-!
This module contains sums in one's complement. Such a sum is the sum of the words as numbers with
every carry out of the top bit added back, so it is known modulo `2 ^ w - 1`, and it is zero only
where every word is.
-/

namespace NetmonPlugins
namespace OnesComplement

variable {w : Nat}

/-- What is above the word is added back to the word once. -/
def fold (w n : Nat) : Nat := n / 2 ^ w + n % 2 ^ w

/-- `k` is `n` with every carry added back. -/
def FullyFolded (w n k : Nat) : Prop :=
  k < 2 ^ w ∧ ∃ steps, (fold w)^[steps] n = k

def add (a b : BitVec w) : BitVec w :=
  if a.toNat + b.toNat < 2 ^ w then a + b else a + b + 1

def sum (words : List (BitVec w)) : BitVec w := words.foldl add 0

def checksum (words : List (BitVec w)) : BitVec w := ~~~ sum words

def total (words : List (BitVec w)) : Nat := (words.map BitVec.toNat).sum

/-- The word `k` stands for the number `n`. -/
structure Represents (w n k : Nat) : Prop where
  lt : k < 2 ^ w
  modEq : k ≡ n [MOD 2 ^ w - 1]
  eq_zero_iff : k = 0 ↔ n = 0

theorem Represents.unique {n k l : Nat} (hk : Represents w n k) (hl : Represents w n l)
    : k = l := by
  have hzero : k = 0 ↔ l = 0 := hk.eq_zero_iff.trans hl.eq_zero_iff.symm
  have hmod : k ≡ l [MOD 2 ^ w - 1] := hk.modEq.trans hl.modEq.symm
  have hkLt := hk.lt
  have hlLt := hl.lt
  by_cases h : k = 0
  . rw [h, hzero.mp h]
  . have hl : l ≠ 0 := fun hl => h (hzero.mpr hl)
    -- Both are among the `2 ^ w - 1` numbers from one on.
    have hpred : k - 1 ≡ l - 1 [MOD 2 ^ w - 1] := by
      apply Nat.ModEq.add_right_cancel' 1
      rwa [Nat.sub_add_cancel (by omega), Nat.sub_add_cancel (by omega)]
    have heq := hpred.eq_of_lt_of_lt (by omega) (by omega)
    omega

theorem fold_of_lt {n : Nat} (h : n < 2 ^ w) : fold w n = n := by
  unfold fold
  rw [Nat.div_eq_of_lt h, Nat.mod_eq_of_lt h, Nat.zero_add]

theorem fold_modEq (w n : Nat) : fold w n ≡ n [MOD 2 ^ w - 1] := by
  have hone : 2 ^ w ≡ 1 [MOD 2 ^ w - 1] :=
    ((Nat.modEq_iff_dvd' Nat.one_le_two_pow).mpr (Nat.dvd_refl _)).symm
  calc n / 2 ^ w + n % 2 ^ w
    _ = 1 * (n / 2 ^ w) + n % 2 ^ w := by rw [Nat.one_mul]
    _ ≡ 2 ^ w * (n / 2 ^ w) + n % 2 ^ w [MOD 2 ^ w - 1] :=
      (hone.symm.mul_right _).add_right _
    _ = n := Nat.div_add_mod n (2 ^ w)

theorem fold_eq_zero_iff (w n : Nat) : fold w n = 0 ↔ n = 0 := by
  have hsplit := Nat.div_add_mod n (2 ^ w)
  unfold fold
  constructor
  . intro h
    rw [Nat.add_eq_zero_iff] at h
    rw [← hsplit, h.1, h.2, Nat.mul_zero]
  . intro h
    rw [h, Nat.zero_div, Nat.zero_mod]

theorem represents_of_lt {n : Nat} (h : n < 2 ^ w) : Represents w n n :=
  ⟨h, Nat.ModEq.refl n, Iff.rfl⟩

theorem Represents.of_fold {n k : Nat} (h : Represents w (fold w n) k) : Represents w n k :=
  ⟨h.lt, h.modEq.trans (fold_modEq w n), h.eq_zero_iff.trans (fold_eq_zero_iff w n)⟩

theorem FullyFolded.represents {n k : Nat} (h : FullyFolded w n k) : Represents w n k := by
  obtain ⟨hlt, steps, hsteps⟩ := h
  induction steps generalizing n with
  | zero =>
    rw [Function.iterate_zero, id] at hsteps
    exact hsteps ▸ represents_of_lt (hsteps ▸ hlt)
  | succ steps ih => exact (ih hsteps).of_fold

theorem toNat_add (a b : BitVec w) : (add a b).toNat = fold w (a.toNat + b.toNat) := by
  have ha := a.isLt
  have hb := b.isLt
  unfold add
  split
  . next h => rw [BitVec.toNat_add, Nat.mod_eq_of_lt h, fold_of_lt h]
  . next h =>
    have hdiv : (a.toNat + b.toNat) / 2 ^ w = 1 := by
      rw [Nat.div_eq_iff (Nat.two_pow_pos w)]
      omega
    have hmod : (a.toNat + b.toNat) % 2 ^ w = a.toNat + b.toNat - 2 ^ w := by
      rw [Nat.mod_eq_sub_mod (by omega), Nat.mod_eq_of_lt (by omega)]
    have hone : (1 : BitVec w).toNat = 1 % 2 ^ w := BitVec.toNat_ofNat 1 w
    unfold fold
    rw [BitVec.toNat_add, BitVec.toNat_add, hone, Nat.add_mod_mod, hdiv, hmod,
      Nat.mod_eq_of_lt (by omega)]
    omega

theorem represents_foldl_add (words : List (BitVec w)) {n : Nat} {init : BitVec w}
    (hinit : Represents w n init.toNat)
    : Represents w (n + total words) (words.foldl add init).toNat := by
  induction words generalizing n init with
  | nil => exact hinit
  | cons word words ih =>
    have hadd : Represents w (n + word.toNat) (add init word).toNat := by
      refine ⟨(add init word).isLt, ?_, ?_⟩
      . rw [toNat_add]
        exact (fold_modEq w _).trans (hinit.modEq.add_right _)
      . rw [toNat_add, fold_eq_zero_iff, Nat.add_eq_zero_iff, Nat.add_eq_zero_iff,
          hinit.eq_zero_iff]
    have hrest := ih hadd
    rwa [Nat.add_assoc] at hrest

theorem represents_sum (words : List (BitVec w))
    : Represents w (total words) (sum words).toNat := by
  have hzero : Represents w 0 (0 : BitVec w).toNat := represents_of_lt (Nat.two_pow_pos w)
  have hsum := represents_foldl_add words hzero
  rwa [Nat.zero_add] at hsum

/-- However the carries are added back, the word that is left is the sum. -/
theorem FullyFolded.eq_sum {words : List (BitVec w)} {k : Nat}
    (h : FullyFolded w (total words) k)
    : k = (sum words).toNat :=
  h.represents.unique (represents_sum words)

theorem total_append (front back : List (BitVec w))
    : total (front ++ back) = total front + total back := by
  unfold total
  rw [List.map_append, List.sum_append]

/-- The checksum in the place of a word that was zero makes the sum all ones. -/
theorem sum_checksum (hw : 0 < w) (front back : List (BitVec w))
    : sum (front ++ checksum (front ++ 0 :: back) :: back) = BitVec.allOnes w := by
  have hzeroed := represents_sum (front ++ 0 :: back)
  have hfilled := represents_sum (front ++ checksum (front ++ 0 :: back) :: back)
  generalize hs : sum (front ++ 0 :: back) = s at hzeroed
  have hchecksum : checksum (front ++ 0 :: back) = ~~~ s := by rw [← hs]; rfl
  rw [hchecksum] at hfilled ⊢
  have hpow : 2 ≤ 2 ^ w := Nat.le_self_pow (by omega) 2
  have hcons : ∀ word, total (front ++ word :: back) = total (front ++ 0 :: back) + word.toNat := by
    intro word
    have hzero : (0 : BitVec w).toNat = 0 := BitVec.toNat_zero
    rw [total_append, total_append]
    simp only [total, List.map_cons, List.sum_cons, hzero]
    omega
  have hones : Represents w (total (front ++ ~~~ s :: back)) (2 ^ w - 1) := by
    rw [hcons, BitVec.toNat_not]
    have hlt := hzeroed.lt
    refine ⟨by omega, ?_, ?_⟩
    . have hsum := hzeroed.modEq.add_right (2 ^ w - 1 - s.toNat)
      rwa [Nat.add_sub_cancel' (by omega)] at hsum
    . have hzero := hzeroed.eq_zero_iff
      omega
  apply BitVec.eq_of_toNat_eq
  rw [hfilled.unique hones, BitVec.toNat_allOnes]

end OnesComplement
end NetmonPlugins

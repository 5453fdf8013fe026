import Mathlib.Tactic.Linarith
import NetmonPlugins.Cxx.Digits
import NetmonPlugins.Plugins.Memcached.Impl

/-!
This module determines for which counters the hit ratio of `check_memcached` is defined.
-/

namespace NetmonPlugins
namespace MemcachedPlugin

theorem addInt_eq_some_iff (a b sum : Int)
    : addInt a b = some sum ↔ sum = a + b ∧ -2 ^ 31 ≤ a + b ∧ a + b < 2 ^ 31 := by
  unfold addInt
  split
  . next h =>
    rw [Option.some.injEq]
    constructor
    . intro hsum
      exact ⟨hsum.symm, h⟩
    . intro hsum
      exact hsum.1.symm
  . next h =>
    simp only [reduceCtorEq, false_iff, not_and]
    intro _ hlow hhigh
    exact h ⟨hlow, hhigh⟩

theorem extractStatValue_lt (stats key : Bytes) : extractStatValue stats key < 2 ^ 31 := by
  unfold extractStatValue
  split
  . decide
  . dsimp only
    split
    . decide
    . split
      . next value hvalue =>
        have hrange := range_of_stoInteger hvalue
        omega
      . decide

theorem hitRatio_of_lt {hits misses : Int} (hhits : 0 ≤ hits) (hmisses : 0 ≤ misses)
    (h : hits + misses < 2 ^ 31)
    : hitRatio hits misses
        =
      some (.fin (if 0 < hits + misses then 100 * (hits : ℚ) / (hits + misses) else 0)) := by
  have hsum : addInt hits misses = some (hits + misses) := by
    rw [addInt_eq_some_iff]
    omega
  unfold hitRatio
  rw [if_pos ⟨hhits, hmisses⟩, hsum, Option.map_some]
  congr 1
  split
  . next hpos =>
    have hne : ((hits + misses : Int) : ℚ) ≠ 0 := by
      exact_mod_cast hpos.ne'
    rw [Double.ofInt_eq_fin, Double.ofInt_eq_fin, Double.fin_div_fin _ _ hne,
      Double.ofNat_eq_fin, Double.fin_mul_fin, Int.cast_add]
    congr 1
    push_cast
    ring
  . simp

theorem hitRatio_mem {hits misses : Int} (hhits : 0 ≤ hits) (hmisses : 0 ≤ misses)
    (hpos : 0 < hits + misses)
    : 0 ≤ 100 * (hits : ℚ) / (hits + misses) ∧ 100 * (hits : ℚ) / (hits + misses) ≤ 100 := by
  have hhits' : (0 : ℚ) ≤ hits := by exact_mod_cast hhits
  have hmisses' : (0 : ℚ) ≤ misses := by exact_mod_cast hmisses
  have hpos' : (0 : ℚ) < hits + misses := by exact_mod_cast hpos
  constructor
  . positivity
  . rw [div_le_iff₀ hpos']
    linarith

theorem hitRatio_eq_none {hits misses : Int} (hhits : 0 ≤ hits) (hmisses : 0 ≤ misses)
    (h : ¬ hits + misses < 2 ^ 31)
    : hitRatio hits misses = none := by
  unfold hitRatio addInt
  rw [if_pos ⟨hhits, hmisses⟩, if_neg]
  . rfl
  . intro hrange
    exact h hrange.2

theorem report_isSome_iff (stats : Bytes)
    (hhits : 0 ≤ extractStatValue stats (str "STAT get_hits"))
    (hmisses : 0 ≤ extractStatValue stats (str "STAT get_misses"))
    : (report stats).isSome = true
        ↔
      extractStatValue stats (str "STAT get_hits") + extractStatValue stats (str "STAT get_misses")
        < 2 ^ 31 := by
  unfold report
  rw [Option.isSome_map]
  constructor
  . intro hsome
    by_contra hlarge
    rw [hitRatio_eq_none hhits hmisses hlarge] at hsome
    contradiction
  . intro hsmall
    rw [hitRatio_of_lt hhits hmisses hsmall]
    rfl

theorem hitRatio_exact_iff (hits misses : Int) (hhits : 0 ≤ hits ∧ hits < 2 ^ 31)
    (hmisses : 0 ≤ misses ∧ misses < 2 ^ 31)
    : (∃ ratio : ℚ, hitRatio hits misses = some (.fin ratio)
          ∧ ratio = (if 0 < hits + misses then 100 * (hits : ℚ) / (hits + misses) else 0)
          ∧ 0 ≤ ratio ∧ ratio ≤ 100)
        ↔
      hits + misses < 2 ^ 31 := by
  constructor
  . rintro ⟨ratio, hratio, -, -, -⟩
    by_contra hlarge
    rw [hitRatio_eq_none hhits.1 hmisses.1 hlarge] at hratio
    contradiction
  . intro hsmall
    refine ⟨_, hitRatio_of_lt hhits.1 hmisses.1 hsmall, rfl, ?_⟩
    split
    . next hpos => exact hitRatio_mem hhits.1 hmisses.1 hpos
    . exact ⟨le_refl 0, by decide⟩

theorem hitRatio_exact_of_third
    : ∃ ratio : ℚ, hitRatio 1 2 = some (.fin ratio)
        ∧ ratio = (if 0 < (1 : Int) + 2 then 100 * ((1 : Int) : ℚ) / ((1 : Int) + (2 : Int)) else 0)
        ∧ 0 ≤ ratio ∧ ratio ≤ 100 :=
  (hitRatio_exact_iff 1 2 (by decide) (by decide)).mpr (by decide)

def busy : Bytes := str "STAT get_hits 2147483647\r\nSTAT get_misses 1\r\nEND\r\n"

/-- Two counters that are an `int` each, with a sum that is none. -/
theorem hitRatio_of_large
    : extractStatValue busy (str "STAT get_hits") = 2147483647
        ∧ extractStatValue busy (str "STAT get_misses") = 1
        ∧ hitRatio 2147483647 1 = none
        ∧ report busy = none := by
  decide +kernel

end MemcachedPlugin
end NetmonPlugins

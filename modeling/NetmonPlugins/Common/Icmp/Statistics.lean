import NetmonPlugins.Common.Icmp.Lemmas
import Mathlib.Algebra.Order.BigOperators.Group.List
import Mathlib.Order.Bounds.Basic

/-!
This module contains what the statistics of a run say about the round-trip times that were measured.
-/

namespace NetmonPlugins
namespace Icmp

def Probe.measured : Probe → Option ℚ
  | .sendFailed => none
  | .noReply => none
  | .reply startTime endTime => some (rtt startTime endTime)

/-- The times measured by the first `n` probes, in order. -/
def measured (probe : Nat → Probe) (n : Nat) : List ℚ :=
  (List.range n).filterMap fun i => (probe i).measured

theorem measured_succ (probe : Nat → Probe) (n : Nat)
    : measured probe (n + 1) = measured probe n ++ (probe n).measured.toList := by
  unfold measured
  rw [List.range_succ, List.filterMap_append]
  congr 1

theorem length_measured_le (probe : Nat → Probe) (n : Nat) : (measured probe n).length ≤ n := by
  have := List.length_filterMap_le (fun i => (probe i).measured) (List.range n)
  rwa [List.length_range] at this

/-- The start values of the extremes count as measured times. -/
structure Totals.Summarise (totals : Totals) (times : List ℚ) : Prop where
  received : totals.packetsReceived = times.length
  total : totals.totalRTT = times.sum
  least : IsLeast {t | t ∈ 999999 :: times} totals.minRTT
  greatest : IsGreatest {t | t ∈ 0 :: times} totals.maxRTT

theorem Totals.summarise_nil : ({} : Totals).Summarise [] where
  received := rfl
  total := rfl
  least := by simp
  greatest := by simp

theorem Totals.Summarise.add {totals : Totals} {times : List ℚ} (h : totals.Summarise times)
    (probe : Probe)
    : (totals.add probe).Summarise (times ++ probe.measured.toList) := by
  cases probe with
  | sendFailed => simpa [Totals.add, Probe.measured] using h
  | noReply => simpa [Totals.add, Probe.measured] using h
  | reply startTime endTime =>
    simp only [Totals.add, Probe.measured, Option.toList_some]
    generalize rtt startTime endTime = rtt
    have hinsert (start : ℚ)
        : {t | t ∈ start :: (times ++ [rtt])} = insert rtt {t | t ∈ start :: times} := by
      ext t
      simp only [List.mem_cons, List.mem_append, Set.mem_ofPred_eq, Set.mem_insert_iff,
        List.not_mem_nil, or_false]
      tauto
    constructor
    . simp [h.received]
    . simp [h.total]
    . rw [hinsert, ← min_def_lt]
      exact h.least.insert rtt
    . have hmax : (if rtt > totals.maxRTT then rtt else totals.maxRTT) = max rtt totals.maxRTT := by
        rw [max_comm]
        exact (max_def_lt _ _).symm
      rw [hinsert, hmax]
      exact h.greatest.insert rtt

theorem summarise_probeLoop (probe : Nat → Probe) (n : Nat)
    : (probeLoop probe n).Summarise (measured probe n) := by
  induction n with
  | zero => exact Totals.summarise_nil
  | succ n ih =>
    rw [probeLoop, measured_succ]
    exact ih.add (probe n)

section

variable {totals : Totals} {times : List ℚ}

theorem Totals.Summarise.isLeast (h : totals.Summarise times) (hne : times ≠ [])
    (hbound : ∀ t ∈ times, t ≤ 999999)
    : IsLeast {t | t ∈ times} totals.minRTT := by
  refine ⟨?_, fun t ht => h.least.2 (List.mem_cons_of_mem _ ht)⟩
  rcases List.mem_cons.mp h.least.1 with hstart | hmem
  . -- Nothing was below the start value, so every time is equal to it.
    obtain ⟨t, ht⟩ := List.exists_mem_of_ne_nil times hne
    have := h.least.2 (List.mem_cons_of_mem _ ht)
    rw [hstart] at this ⊢
    exact le_antisymm (hbound t ht) this ▸ ht
  . exact hmem

theorem Totals.Summarise.isGreatest (h : totals.Summarise times) (hne : times ≠ [])
    (hbound : ∀ t ∈ times, 0 ≤ t)
    : IsGreatest {t | t ∈ times} totals.maxRTT := by
  refine ⟨?_, fun t ht => h.greatest.2 (List.mem_cons_of_mem _ ht)⟩
  rcases List.mem_cons.mp h.greatest.1 with hstart | hmem
  . obtain ⟨t, ht⟩ := List.exists_mem_of_ne_nil times hne
    have := h.greatest.2 (List.mem_cons_of_mem _ ht)
    rw [hstart] at this ⊢
    exact le_antisymm this (hbound t ht) ▸ ht
  . exact hmem

end

theorem mean_mem_of_isLeast_of_isGreatest {times : List ℚ} {least greatest : ℚ} (hne : times ≠ [])
    (hleast : IsLeast {t | t ∈ times} least) (hgreatest : IsGreatest {t | t ∈ times} greatest)
    : least ≤ times.sum / times.length ∧ times.sum / times.length ≤ greatest := by
  have hpos : (0 : ℚ) < times.length := by exact_mod_cast List.length_pos_iff.mpr hne
  constructor
  . rw [le_div_iff₀ hpos, mul_comm, ← nsmul_eq_mul]
    exact List.card_nsmul_le_sum times least fun t ht => hleast.2 ht
  . rw [div_le_iff₀ hpos, mul_comm, ← nsmul_eq_mul]
    exact List.sum_le_card_nsmul times greatest fun t ht => hgreatest.2 ht

/-- The record of a run that sent `count` packets and measured `times`. -/
structure PingResult.Describes (result : PingResult) (count : Int) (times : List ℚ) : Prop where
  sent : result.packetsSent = count
  received : result.packetsReceived = times.length
  received_le : result.packetsReceived ≤ count
  loss : ∃ loss : ℚ,
    result.packetLoss = .fin loss
      ∧
    loss = 100 * (count - result.packetsReceived) / count ∧ 0 ≤ loss ∧ loss ≤ 100
  extremes : 0 < result.packetsReceived → ∃ least mean greatest : ℚ,
    result.minRTT = .fin least ∧ result.avgRTT = .fin mean ∧ result.maxRTT = .fin greatest
      ∧
    IsLeast {t | t ∈ times} least ∧ IsGreatest {t | t ∈ times} greatest
      ∧
    mean = times.sum / times.length ∧ least ≤ mean ∧ mean ≤ greatest

theorem Totals.Summarise.describes {totals : Totals} {times : List ℚ} (h : totals.Summarise times)
    {count : Int} (hcount : 1 ≤ count) (hlength : times.length ≤ count)
    (hbound : ∀ t ∈ times, 0 ≤ t ∧ t ≤ 999999)
    : (totals.result count).Describes count times where
  sent := rfl
  received := h.received
  received_le := by
    rw [← h.received] at hlength
    exact hlength
  loss := by
    have hpos : (0 : ℚ) < count := by exact_mod_cast hcount
    have hreceived : (0 : ℚ) ≤ totals.packetsReceived := by
      rw [h.received]
      positivity
    have hle : (totals.packetsReceived : ℚ) ≤ count := by
      rw [h.received]
      exact_mod_cast hlength
    refine ⟨100 * (count - totals.packetsReceived) / count, ?_, rfl, ?_, ?_⟩
    . simp only [Totals.result, Double.ofInt_eq_fin, Double.ofNat_eq_fin, Double.fin_mul_fin]
      rw [Double.fin_div_fin _ _ hpos.ne']
      push_cast
      rw [mul_comm]
    . apply div_nonneg
      . linarith
      . exact hpos.le
    . rw [div_le_iff₀ hpos]
      linarith
  extremes := by
    intro hpos
    have hreceived : totals.packetsReceived > 0 := hpos
    have hne : times ≠ [] := by
      rintro rfl
      rw [h.received] at hreceived
      contradiction
    have hleast := h.isLeast hne fun t ht => (hbound t ht).2
    have hgreatest := h.isGreatest hne fun t ht => (hbound t ht).1
    refine ⟨totals.minRTT, times.sum / times.length, totals.maxRTT, if_pos hpos, ?_, if_pos hpos,
      hleast, hgreatest, rfl, mean_mem_of_isLeast_of_isGreatest hne hleast hgreatest⟩
    simp only [Totals.result]
    rw [if_pos hreceived, h.received, h.total, Double.ofInt_eq_fin, Double.fin_div_fin]
    . simp
    . simpa using hne

end Icmp
end NetmonPlugins

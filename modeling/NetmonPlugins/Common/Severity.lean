import Mathlib.Order.Lattice
import NetmonPlugins.Common.Plugin

/-!
This module contains the ladder that the checks decide by: critical if one of some conditions holds,
otherwise warning if one of some others does. The severities are ordered as the exit codes.
-/

namespace NetmonPlugins

def ladder (critical warning : Prop) [Decidable critical] [Decidable warning] : ExitCode :=
  if critical then .critical else if warning then .warning else .ok

section

variable {critical critical' warning warning' : Prop} [Decidable critical] [Decidable critical']
  [Decidable warning] [Decidable warning']

theorem ladder_eq_critical_iff : ladder critical warning = .critical ↔ critical := by
  unfold ladder
  split
  . next h => exact iff_of_true rfl h
  . next h =>
    refine iff_of_false ?_ h
    split <;> simp

theorem ladder_eq_ok_iff : ladder critical warning = .ok ↔ ¬ critical ∧ ¬ warning := by
  unfold ladder
  split
  . next h => simp [h]
  . next h =>
    split
    . next h' => simp [h']
    . next h' => exact iff_of_true rfl ⟨h, h'⟩

theorem ladder_congr (hcritical : critical ↔ critical') (hwarning : warning ↔ warning')
    : ladder critical warning = ladder critical' warning' := by
  unfold ladder
  simp only [hcritical, hwarning]

/-- Two ladders in one have the worse of their codes. -/
theorem toInt_ladder_or
    : (ladder (critical ∨ critical') (warning ∨ warning')).toInt
        =
      max (ladder critical warning).toInt (ladder critical' warning').toInt := by
  unfold ladder
  by_cases hc : critical <;> by_cases hc' : critical' <;> by_cases hw : warning <;>
    by_cases hw' : warning' <;> simp [hc, hc', hw, hw', ExitCode.toInt]

theorem toInt_ladder_mono (hcritical : critical → critical') (hwarning : warning → warning')
    : (ladder critical warning).toInt ≤ (ladder critical' warning').toInt := by
  unfold ladder
  by_cases hc : critical
  . simp [hc, hcritical hc]
  . by_cases hw : warning
    . simp only [hc, hw, hwarning hw, if_false, if_true]
      split <;> decide
    . simp only [hc, hw, if_false]
      split
      . decide
      . split <;> decide

end

section

variable {a b c d : Prop} [Decidable a] [Decidable b] [Decidable c] [Decidable d]

/-- The two flags that some of the checks set in a chain of guards, and look at afterwards. -/
theorem ite_flags {α : Type _} {flags : Bool × Bool} (critical warning ok : α)
    (h : flags =
      if a then (true, false)
      else if b then (true, false)
      else if c then (false, true)
      else if d then (false, true)
      else (false, false))
    : (if flags.1 then critical else if flags.2 then warning else ok)
        =
      if a ∨ b then critical else if c ∨ d then warning else ok := by
  subst h
  rw [ite_or, ite_or]
  split
  . rfl
  . split
    . rfl
    . split
      . rfl
      . split
        . rfl
        . rfl

end
end NetmonPlugins

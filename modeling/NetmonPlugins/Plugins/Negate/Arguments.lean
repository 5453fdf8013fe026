import NetmonPlugins.Plugins.Negate.Impl
import Mathlib.Data.List.Count

/-!
This module determines which arguments of a wrapped command reach it.
-/

namespace NetmonPlugins
namespace NegatePlugin

open CommandLine

def isOption (arg : Bytes) : Bool :=
  arg ∈ [str "-h", str "--help", str "-c", str "--command"]

theorem branch_of_not_isOption {arg : Bytes} (h : isOption arg = false)
    : branch arg = .set fun config =>
        if config.inCommand ∨ config.command ≠ [] then
          { config with args := config.args ++ [arg] }
        else
          { config with command := arg, inCommand := true } := by
  simp only [isOption, List.mem_cons, List.not_mem_nil, or_false, decide_eq_false_iff_not,
    not_or] at h
  unfold branch
  rw [if_neg, if_neg]
  . intro hcommand
    cases hcommand with
    | inl hshort => exact h.2.2.1 hshort
    | inr hlong => exact h.2.2.2 hlong
  . intro hhelp
    cases hhelp with
    | inl hshort => exact h.1 hshort
    | inr hlong => exact h.2.1 hlong

theorem branch_set {arg : Bytes} {f : Config → Config} (h : branch arg = .set f)
    : isOption arg = false
        ∧
      ∀ config, (f config).args.length ≤ config.args.length + 1 := by
  unfold branch at h
  split at h
  . contradiction
  . next hhelp =>
    split at h
    . contradiction
    . next hcommand =>
      rw [Branch.set.injEq] at h
      constructor
      . simp only [isOption, List.mem_cons, List.not_mem_nil, or_false, decide_eq_false_iff_not]
        tauto
      . intro config
        rw [← h]
        dsimp only
        split
        . simp
        . simp

theorem branch_value {arg next : Bytes} {convert : Bytes → Except Fault (Config → Config)}
    {f : Config → Config} (h : branch arg = .value convert) (hf : convert next = .ok f)
    (config : Config)
    : (f config).args = config.args := by
  unfold branch at h
  split at h
  . contradiction
  . split at h
    . rw [Branch.value.injEq] at h
      rw [← h, Except.ok.injEq] at hf
      rw [← hf]
    . contradiction

theorem scan_of_forall_not_isOption (args : List Bytes) (config : Config)
    (hin : config.inCommand = true) (h : ∀ arg ∈ args, isOption arg = false)
    : scan branch config args = .ok { config with args := config.args ++ args } := by
  induction args generalizing config with
  | nil => simp [scan]
  | cons arg args ih =>
    rw [scan_of_set (branch_of_not_isOption (h arg List.mem_cons_self))]
    rw [if_pos (Or.inl hin), ih]
    . simp
    . exact hin
    . intro other hother
      apply h other (List.mem_cons_of_mem _ hother)

theorem length_args_le {args : List Bytes} {config config' : Config}
    (h : scan branch config args = .ok config')
    : config'.args.length ≤ config.args.length + args.countP (! isOption ·) := by
  have hinv : config'.args.length ≤ config.args.length + ([] ++ args).countP (! isOption ·) := by
    apply scan_invariant
      (fun before (s : Config) => s.args.length ≤ config.args.length + before.countP (! isOption ·))
      _ _ _ _ h
    . intro before arg f s hbranch hs
      have ⟨hoption, hlength⟩ := branch_set hbranch
      have := hlength s
      rw [List.countP_append, List.countP_singleton, hoption]
      simp only [Bool.not_false, if_true]
      omega
    . intro before arg convert next f s hbranch hf hs
      rw [branch_value hbranch hf, List.countP_append]
      omega
    . intro before arg s hs
      rw [List.countP_append]
      omega
    . simp
  simpa using hinv

theorem parseArguments_preserves_iff (command : Bytes) (h : command.head? ≠ some 45)
    (args : List Bytes)
    : (∃ config, parseArguments (command :: args) = .ok config ∧ config.command = command
          ∧ config.args = args)
        ↔
      str "-h" ∉ args ∧ str "--help" ∉ args ∧ str "-c" ∉ args ∧ str "--command" ∉ args := by
  have hcommand : isOption command = false := by
    simp only [isOption, List.mem_cons, List.not_mem_nil, or_false, decide_eq_false_iff_not]
    intro hoption
    apply h
    rcases hoption with hoption | hoption | hoption | hoption
    all_goals
      rw [hoption]
      rfl
  have hscan : parseArguments (command :: args)
      = scan branch { command := command, inCommand := true } args := by
    unfold parseArguments
    rw [scan_of_set (branch_of_not_isOption hcommand)]
    rfl
  have hoptions : (str "-h" ∉ args ∧ str "--help" ∉ args ∧ str "-c" ∉ args
      ∧ str "--command" ∉ args) ↔ ∀ arg ∈ args, isOption arg = false := by
    simp only [isOption, List.mem_cons, List.not_mem_nil, or_false, decide_eq_false_iff_not]
    grind
  rw [hscan, hoptions]
  constructor
  . intro hkept
    obtain ⟨config, hconfig, _, hargs⟩ := hkept
    have hle := length_args_le hconfig
    rw [hargs] at hle
    have heq : args.countP (! isOption ·) = args.length := by
      have := @List.countP_le_length _ (! isOption ·) args
      simp only [List.length_nil] at hle
      omega
    rw [List.countP_eq_length] at heq
    intro arg harg
    simpa using heq arg harg
  . intro hnone
    exists { command := command, args := args, inCommand := true }
    rw [scan_of_forall_not_isOption args _ rfl hnone]
    simp

theorem parseArguments_preserves_dummy
    : ∃ config, parseArguments [str "check_dummy", str "--ok"] = .ok config
        ∧ config.command = str "check_dummy" ∧ config.args = [str "--ok"] :=
  (parseArguments_preserves_iff (str "check_dummy") (by decide) [str "--ok"]).mpr (by decide)

theorem parseArguments_check_load
    : parseArguments [str "check_load", str "-w", str "5", str "-c", str "10"]
        = .ok { command := str "10", args := [str "-w", str "5"], inCommand := true } := by
  decide

end NegatePlugin
end NetmonPlugins

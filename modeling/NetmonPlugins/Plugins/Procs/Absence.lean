import NetmonPlugins.Plugins.Procs.Impl
import Mathlib.Data.List.Count

/-!
This module compares the number of processes `check_procs` counts with the number of other processes
whose command line contains the filter. The entry of `check_procs` itself is part of `/proc`.
-/

namespace NetmonPlugins
namespace ProcsPlugin

open CommandLine

def commandLine (argv : List Bytes) : Bytes := argv.flatMap fun arg => arg ++ [0]

def Entry.matches (processName : Bytes) (entry : Entry) : Bool :=
  entry.isPid && contains entry.cmdline processName

/-- A match whose file does not open, or where the filter stands only behind a newline. -/
def Entry.isMissed (processName : Bytes) (entry : Entry) : Bool :=
  entry.matches processName && (!entry.opens || !contains (getline entry.cmdline) processName)

theorem countEntries_eq (processName : Bytes) (count : Int) (entries : List Entry)
    : countEntries processName count entries
        =
      count + entries.countP (·.isCounted processName) := by
  induction entries generalizing count with
  | nil => simp [countEntries]
  | cons entry entries ih =>
    rw [countEntries, ih, List.countP_cons]
    split
    . push_cast
      omega
    . push_cast
      omega

theorem contains_of_contains_getline {text processName : Bytes}
    (h : contains (getline text) processName = true)
    : contains text processName = true := by
  rw [contains_iff_isInfix] at h ⊢
  apply h.trans
  apply List.IsPrefix.isInfix
  apply List.takeWhile_prefix

theorem Entry.matches_of_isCounted {processName : Bytes} (hname : processName ≠ []) {entry : Entry}
    (h : entry.isCounted processName = true)
    : entry.matches processName = true := by
  unfold isCounted at h
  unfold Entry.matches
  rw [if_neg hname] at h
  split at h
  . next hpid =>
    split at h
    . rw [hpid, contains_of_contains_getline h]
      rfl
    . contradiction
  . contradiction

theorem Entry.isMissed_eq {processName : Bytes} (hname : processName ≠ []) (entry : Entry)
    : entry.isMissed processName
        =
      (entry.matches processName && !entry.isCounted processName) := by
  unfold isMissed isCounted Entry.matches
  rw [if_neg hname]
  cases entry.isPid <;> cases entry.opens <;> simp

theorem countP_matches {processName : Bytes} (hname : processName ≠ []) (entries : List Entry)
    : entries.countP (·.matches processName)
        =
      entries.countP (·.isCounted processName) + entries.countP (·.isMissed processName) := by
  induction entries with
  | nil => rfl
  | cons entry entries ih =>
    rw [List.countP_cons, List.countP_cons, List.countP_cons, ih]
    cases hcounted : entry.isCounted processName with
    | true =>
      have hmatches := Entry.matches_of_isCounted hname hcounted
      simp only [Entry.isMissed_eq hname, hcounted, hmatches]
      simp
      omega
    | false =>
      simp only [Entry.isMissed_eq hname, hcounted]
      simp
      omega

theorem countProcesses_eq (processName : Bytes) (before after : List Entry) (self : Entry)
    : countProcesses (some (before ++ self :: after)) processName
        =
      (before ++ after).countP (·.isCounted processName)
        + if self.isCounted processName then 1 else 0 := by
  show countEntries processName 0 _ = _
  rw [countEntries_eq, List.countP_append, List.countP_append, List.countP_cons]
  push_cast
  omega

theorem setWarning_processName {threshold : Bytes} {f : Config → Config}
    (h : setWarning threshold = .ok f) (config : Config)
    : (f config).processName = config.processName := by
  unfold setWarning at h
  split at h
  . obtain ⟨storeMin, hmin, h⟩ := eq_ok_of_bind h
    obtain ⟨storeMax, hmax, h⟩ := eq_ok_of_bind h
    obtain ⟨min, -, rfl⟩ := converted_eq_ok hmin
    obtain ⟨max, -, rfl⟩ := converted_eq_ok hmax
    rw [← Except.ok.inj h]
    rfl
  . obtain ⟨max, -, rfl⟩ := converted_eq_ok h
    rfl

theorem setCritical_processName {threshold : Bytes} {f : Config → Config}
    (h : setCritical threshold = .ok f) (config : Config)
    : (f config).processName = config.processName := by
  unfold setCritical at h
  split at h
  . obtain ⟨storeMin, hmin, h⟩ := eq_ok_of_bind h
    obtain ⟨storeMax, hmax, h⟩ := eq_ok_of_bind h
    obtain ⟨min, -, rfl⟩ := converted_eq_ok hmin
    obtain ⟨max, -, rfl⟩ := converted_eq_ok hmax
    rw [← Except.ok.inj h]
    rfl
  . obtain ⟨max, -, rfl⟩ := converted_eq_ok h
    rfl

theorem branch_set {arg : Bytes} {f : Config → Config} (h : branch arg = .set f) : f = id := by
  unfold branch at h
  grind

theorem branch_value {arg next : Bytes} {convert : Bytes → Except Fault (Config → Config)}
    {f : Config → Config} (h : branch arg = .value convert) (hf : convert next = .ok f)
    (config : Config)
    : (f config).processName = config.processName ∨ (f config).processName = next := by
  unfold branch at h
  split at h
  . contradiction
  split at h
  . rw [Branch.value.injEq] at h
    left
    apply setWarning_processName
    rw [h]
    exact hf
  split at h
  . rw [Branch.value.injEq] at h
    left
    apply setCritical_processName
    rw [h]
    exact hf
  split at h
  . rw [Branch.value.injEq] at h
    right
    rw [← h, Except.ok.injEq] at hf
    rw [← hf]
  . contradiction

theorem processName_mem {args : List Bytes} {config : Config} (h : parseArguments args = .ok config)
    (hname : config.processName ≠ [])
    : config.processName ∈ args := by
  have hinv : config.processName ≠ [] → config.processName ∈ [] ++ args := by
    apply scan_invariant
      (fun before (config : Config) => config.processName ≠ [] → config.processName ∈ before)
      _ _ _ _ h
    . intro before arg f s hbranch hs
      rw [branch_set hbranch, List.mem_append]
      intro hne
      left
      apply hs hne
    . intro before arg convert next f s hbranch hf hs hne
      rw [List.mem_append]
      cases branch_value hbranch hf s with
      | inl hkept =>
        rw [hkept] at hne ⊢
        left
        apply hs hne
      | inr hnext =>
        right
        rw [hnext]
        simp
    . intro before arg s hs hne
      rw [List.mem_append]
      left
      apply hs hne
    . intro hne
      exact absurd rfl hne
  apply hinv hname

theorem isInfix_commandLine {arg : Bytes} {argv : List Bytes} (h : arg ∈ argv)
    : arg <:+: commandLine argv := by
  obtain ⟨before, after, rfl⟩ := List.append_of_mem h
  exists commandLine before, 0 :: commandLine after
  simp [commandLine]

theorem code_of_lt_criticalMin {procDir : Option (List Entry)} {config : Config}
    (hmin : 0 < config.criticalMin)
    (h : countProcesses procDir config.processName < config.criticalMin)
    : (check procDir config).code = .critical := by
  show (checkThresholds config (countProcesses procDir config.processName)).1 = .critical
  unfold checkThresholds
  rw [if_pos ⟨hmin, h⟩]

theorem countProcesses_eq_matches_iff {processName : Bytes} (hname : processName ≠ [])
    (before after : List Entry) (self : Entry)
    : countProcesses (some (before ++ self :: after)) processName
          = (before ++ after).countP (·.matches processName)
        ↔
      (before ++ after).countP (·.isMissed processName)
        = if self.isCounted processName then 1 else 0 := by
  rw [countProcesses_eq, countP_matches hname]
  cases self.isCounted processName with
  | true =>
    simp only [if_true]
    omega
  | false =>
    simp only [Bool.false_eq_true, if_false]
    omega

/--
The command line of `check_procs` always contains the filter. The count is the number of other
processes that contain it if and only if as many of those are missed as the own entry adds.
-/
theorem countProcesses_eq_others_iff (program : Bytes) (args : List Bytes) (config : Config)
    (hparse : parseArguments args = .ok config) (hname : config.processName ≠ [])
    (hmin : 1 ≤ config.criticalMin)
    (before after : List Entry) (self : Entry) (hpid : self.isPid = true)
    (hself : self.cmdline = commandLine (program :: args))
    : self.matches config.processName = true
        ∧
      ((countProcesses (some (before ++ self :: after)) config.processName
            = (before ++ after).countP (·.matches config.processName)
          ∧
        ((before ++ after).countP (·.matches config.processName) = 0
          → (check (some (before ++ self :: after)) config).code = .critical))
        ↔
      (before ++ after).countP (·.isMissed config.processName)
        = if self.isCounted config.processName then 1 else 0) := by
  constructor
  . unfold Entry.matches
    rw [hpid, hself, Bool.true_and, contains_iff_isInfix]
    apply isInfix_commandLine
    apply List.mem_cons_of_mem
    apply processName_mem hparse hname
  . rw [← countProcesses_eq_matches_iff hname]
    constructor
    . intro h
      exact h.1
    . intro hcount
      constructor
      . exact hcount
      . intro hnone
        apply code_of_lt_criticalMin
        . omega
        . rw [hcount, hnone]
          omega

def ownEntry (args : List Bytes) : Entry where
  d_name := str "42"
  cmdline := commandLine (str "check_procs" :: args)
  opens := true

def newlineArgs : List Bytes := [str "-a", str "\n", str "-c", str "1:5"]

def newlineConfig : Config where
  processName := str "\n"
  criticalMin := 1
  criticalMax := 5

-- The newline of the filter ends the own line before it.
theorem countProcesses_eq_others_of_newline
    : (check (some [ownEntry newlineArgs]) newlineConfig).code = .critical := by
  have h := countProcesses_eq_others_iff (str "check_procs") newlineArgs newlineConfig (by rfl)
    (by decide) (by decide) [] [] (ownEntry newlineArgs) (by decide) rfl
  exact (h.2.2 (by decide)).2 rfl

def httpdArgs : List Bytes := [str "-a", str "httpd", str "-c", str "1:5"]

def httpdConfig : Config where
  processName := str "httpd"
  criticalMin := 1
  criticalMax := 5

theorem ok_of_ownEntry
    : parseArguments httpdArgs = .ok httpdConfig
        ∧
      check (some [ownEntry httpdArgs]) httpdConfig
        =
      { code := .ok
        message := str "Processes OK - 1 process 'httpd' running"
        perfdata := str "procs=1" } := by
  constructor
  . rfl
  . decide

theorem Entry.isCounted_of_singleLine {processName : Bytes} (hname : processName ≠ [])
    {entry : Entry} (hopens : entry.opens = true) (hline : 10 ∉ entry.cmdline)
    : entry.isCounted processName = entry.matches processName := by
  unfold isCounted Entry.matches
  have hgetline : getline entry.cmdline = entry.cmdline := by
    unfold getline
    rw [List.takeWhile_eq_self_iff]
    intro b hb
    simp only [ne_eq, decide_not, Bool.not_eq_eq_eq_not, Bool.not_true, decide_eq_false_iff_not]
    intro hnewline
    exact hline (hnewline ▸ hb)
  rw [hgetline, if_neg hname, hopens]
  cases entry.isPid with
  | true => simp
  | false => simp

theorem countProcesses_of_singleLine {processName : Bytes} (hname : processName ≠ [])
    (before after : List Entry) (self : Entry) (hself : self.matches processName = true)
    (h : ∀ entry ∈ before ++ self :: after, entry.opens = true ∧ 10 ∉ entry.cmdline)
    : countProcesses (some (before ++ self :: after)) processName
        =
      (before ++ after).countP (·.matches processName) + 1 := by
  have hcounted : ∀ entry ∈ before ++ self :: after,
      entry.isCounted processName = entry.matches processName := by
    intro entry hentry
    apply Entry.isCounted_of_singleLine hname (h entry hentry).1 (h entry hentry).2
  rw [countProcesses_eq, hcounted self (by simp), hself, if_pos rfl]
  congr 2
  apply List.countP_congr
  intro entry hentry
  rw [hcounted entry]
  simp only [List.mem_append, List.mem_cons] at hentry ⊢
  cases hentry with
  | inl hbefore =>
    left
    exact hbefore
  | inr hafter =>
    right
    right
    exact hafter

end ProcsPlugin
end NetmonPlugins

import NetmonPlugins.Plugins.Nwstat.Impl
import NetmonPlugins.Plugins.Overcr.Impl
import NetmonPlugins.Plugins.Procs.Impl

/-!
This module contains the codes of `check_nwstat`, `check_procs` and `check_overcr` where the source
they read has no data for them.
-/

namespace NetmonPlugins

namespace NwstatPlugin

def counter (sysfs : SysFs) (iface name : Bytes) : Option Int :=
  (sysfs (statisticsFile iface name)).bind scanLongLong

def statistics : List Bytes :=
  [str "rx_bytes", str "tx_bytes", str "rx_packets", str "tx_packets"]

/-- A statistics file of the interface is absent, or no number can be read from it. -/
def Unreadable (sysfs : SysFs) (iface : Bytes) : Prop :=
  ∃ name ∈ statistics, counter sysfs iface name = none

/-- A number that was read is above one of the thresholds that are set for it. -/
def Exceeds (reading : Option Int) (critical warning : Int) : Prop :=
  ∃ value ∈ reading, (critical > 0 ∧ value > critical) ∨ (warning > 0 ∧ value > warning)

theorem readCounter_eq (sysfs : SysFs) (iface name : Bytes)
    : readCounter sysfs iface name = (counter sysfs iface name).getD 0 := by
  unfold readCounter counter
  cases sysfs (statisticsFile iface name) <;> rfl

theorem exceeds_iff (reading : Option Int) (critical warning : Int)
    : Exceeds reading critical warning
        ↔
      (critical > 0 ∧ reading.getD 0 > critical) ∨ (warning > 0 ∧ reading.getD 0 > warning) := by
  unfold Exceeds
  cases reading with
  | none =>
    simp only [Option.mem_def, reduceCtorEq, false_and, exists_false, Option.getD_none, false_iff]
    omega
  | some value => simp

theorem code_ne_ok_iff (sysfs : SysFs) (config : Config)
    : (check sysfs config).code ≠ .ok
        ↔
      Exceeds (counter sysfs config.interface (str "rx_bytes")) config.criticalRx config.warningRx
        ∨ Exceeds (counter sysfs config.interface (str "tx_bytes")) config.criticalTx
            config.warningTx := by
  show checkThresholds config (getNetworkStats sysfs config.interface) ≠ .ok ↔ _
  unfold checkThresholds
  simp only [getNetworkStats, readCounter_eq, exceeds_iff]
  rw [ite_ne_ok_iff (by decide), ite_ne_ok_iff (by decide)]
  simp only [ne_eq, not_true_eq_false, or_false]
  apply or_or_or_comm

end NwstatPlugin

namespace ProcsPlugin

def NotListable (procDir : Option (List Entry)) : Prop := procDir.getD [] = []

theorem countProcesses_of_notListable {procDir : Option (List Entry)} (h : NotListable procDir)
    (processName : Bytes)
    : countProcesses procDir processName = 0 := by
  cases procDir with
  | none => rfl
  | some entries =>
    change entries = [] at h
    rw [h]
    rfl

theorem code_ne_ok_iff {procDir : Option (List Entry)} (h : NotListable procDir) (config : Config)
    : (check procDir config).code ≠ .ok ↔ config.criticalMin > 0 ∨ config.warningMin > 0 := by
  show (checkThresholds config (countProcesses procDir config.processName)).1 ≠ .ok ↔ _
  rw [countProcesses_of_notListable h]
  unfold checkThresholds
  split
  . next hcriticalMin => exact iff_of_true (by simp) (.inl hcriticalMin.1)
  . split
    . omega
    . split
      . next hwarningMin => exact iff_of_true (by simp) (.inr hwarningMin.1)
      . split
        . omega
        . exact iff_of_false (by simp) (by omega)

end ProcsPlugin

namespace OvercrPlugin

def Missing (name text : Bytes) : Prop :=
  ∀ line ∈ getlines [] text, find line name 0 = some 0 → scanCounter name line = none

def Unreadable (meminfo : Option Bytes) : Prop :=
  ∀ text ∈ meminfo, Missing (str "CommitLimit:") text ∨ Missing (str "Committed_AS:") text

theorem commitLimit_readLine (info : MemInfo) (line : Bytes)
    (h : find line (str "CommitLimit:") 0 = some 0 → scanCounter (str "CommitLimit:") line = none)
    : (info.readLine line).commitLimit = info.commitLimit := by
  unfold MemInfo.readLine
  split
  . rfl
  . split
    . rfl
    . split
      . next hfind => simp [h hfind]
      . split <;> rfl

theorem committed_readLine (info : MemInfo) (line : Bytes)
    (h : find line (str "Committed_AS:") 0 = some 0 → scanCounter (str "Committed_AS:") line = none)
    : (info.readLine line).committed = info.committed := by
  unfold MemInfo.readLine
  split
  . rfl
  . split
    . rfl
    . split
      . rfl
      . split
        . next hfind => simp [h hfind]
        . rfl

/-- What no line changes is what it was before the first line. -/
theorem readMemInfo_of_unchanged {text : Bytes} (field : MemInfo → Int)
    (h : ∀ info : MemInfo, ∀ line ∈ getlines [] text, field (info.readLine line) = field info)
    : field (readMemInfo text) = field {} := by
  unfold readMemInfo
  apply List.foldlRecOn (motive := fun info => field info = field {})
  . rfl
  . intro info hinfo line hline
    rw [h info line hline, hinfo]

theorem commitLimit_readMemInfo {text : Bytes} (h : Missing (str "CommitLimit:") text)
    : (readMemInfo text).commitLimit = 0 := by
  apply readMemInfo_of_unchanged MemInfo.commitLimit
  intro info line hline
  apply commitLimit_readLine _ _ (h line hline)

theorem committed_readMemInfo {text : Bytes} (h : Missing (str "Committed_AS:") text)
    : (readMemInfo text).committed = 0 := by
  apply readMemInfo_of_unchanged MemInfo.committed
  intro info line hline
  apply committed_readLine _ _ (h line hline)

theorem getOvercommitRatio_of_missing (text : Bytes)
    (h : Missing (str "CommitLimit:") text ∨ Missing (str "Committed_AS:") text)
    : getOvercommitRatio (some text) = .ok (.fin 0) := by
  unfold getOvercommitRatio
  cases h with
  | inl h =>
    simp only [commitLimit_readMemInfo h]
    rfl
  | inr h =>
    simp only [committed_readMemInfo h]
    split
    . next hlimit =>
      have hne : ((readMemInfo text).commitLimit : ℚ) ≠ 0 := by
        rw [Int.cast_ne_zero]
        omega
      simp [Double.fin_div_fin _ _ hne]
    . rfl

theorem checkThresholds_zero (config : Config) : (checkThresholds config (.fin 0)).1 = .ok := by
  have hnever (threshold : Double) : ¬ (threshold > 0 ∧ Double.fin 0 > threshold) := by
    rintro ⟨hset, habove⟩
    exact Double.lt_asymm hset habove
  unfold checkThresholds
  rw [if_neg (hnever _), if_neg (hnever _)]

theorem code_ne_ok_iff {meminfo : Option Bytes} (h : Unreadable meminfo) (config : Config)
    : (check meminfo config).code ≠ .ok ↔ meminfo = none := by
  unfold check
  cases meminfo with
  | none => simp [getOvercommitRatio]
  | some text => simp [getOvercommitRatio_of_missing text (h text rfl), checkThresholds_zero]

end OvercrPlugin

theorem code_of_failure_iff (sysfs : NwstatPlugin.SysFs) (nwstat : NwstatPlugin.Config)
    (procDir : Option (List ProcsPlugin.Entry)) (procs : ProcsPlugin.Config)
    (meminfo : Option Bytes) (overcr : OvercrPlugin.Config)
    : ((NwstatPlugin.Unreadable sysfs nwstat.interface
            → (NwstatPlugin.check sysfs nwstat).code ≠ .ok)
          ↔ (NwstatPlugin.Unreadable sysfs nwstat.interface →
            NwstatPlugin.Exceeds (NwstatPlugin.counter sysfs nwstat.interface (str "rx_bytes"))
                nwstat.criticalRx nwstat.warningRx
              ∨ NwstatPlugin.Exceeds (NwstatPlugin.counter sysfs nwstat.interface (str "tx_bytes"))
                nwstat.criticalTx nwstat.warningTx))
        ∧ ((ProcsPlugin.NotListable procDir → (ProcsPlugin.check procDir procs).code ≠ .ok)
          ↔ (ProcsPlugin.NotListable procDir → procs.criticalMin > 0 ∨ procs.warningMin > 0))
        ∧ ((OvercrPlugin.Unreadable meminfo → (OvercrPlugin.check meminfo overcr).code ≠ .ok)
          ↔ (OvercrPlugin.Unreadable meminfo → meminfo = none)) := by
  refine ⟨?_, ?_, ?_⟩
  . rw [NwstatPlugin.code_ne_ok_iff]
  . apply imp_congr_right
    intro h
    apply ProcsPlugin.code_ne_ok_iff h
  . apply imp_congr_right
    intro h
    apply OvercrPlugin.code_ne_ok_iff h

/-- No interface, no process and no commit limit, and all thresholds are kept. -/
theorem ok_of_failure
    : NwstatPlugin.Unreadable (fun _ => none) (str "eth0")
        ∧ (NwstatPlugin.check (fun _ => none) { criticalRx := 1, criticalTx := 1 }).code = .ok
        ∧ ProcsPlugin.NotListable none
        ∧ (ProcsPlugin.check none { criticalMax := 100 }).code = .ok
        ∧ OvercrPlugin.Unreadable (some (str "MemTotal: 16 kB\n"))
        ∧ (OvercrPlugin.check (some (str "MemTotal: 16 kB\n")) { criticalPercent := 90 }).code
          = .ok := by
  refine ⟨⟨str "rx_bytes", by decide, rfl⟩, rfl, rfl, by decide +kernel, ?_, by decide +kernel⟩
  intro text htext
  cases htext
  left
  intro line hline
  have hlines : getlines [] (str "MemTotal: 16 kB\n") = [str "MemTotal: 16 kB"] := by decide
  rw [hlines, List.mem_singleton] at hline
  rw [hline]
  decide

end NetmonPlugins

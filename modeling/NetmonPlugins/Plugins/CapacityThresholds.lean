import NetmonPlugins.Common.Perfdata
import NetmonPlugins.Plugins.Disk.Impl
import NetmonPlugins.Plugins.Disk.Order
import NetmonPlugins.Plugins.Swap.Impl

/-!
This module determines when the thresholds that `check_disk` and `check_swap` publish lead to the
code that they return.
-/

namespace NetmonPlugins

open Perfdata

inductive Capacity where
  | used
  | free
  | size
  deriving DecidableEq

namespace DiskPlugin

def limit (info : DiskInfo) (free : Int) (percent : Double) : Amount Capacity :=
  if free > 0 then
    whole .free (str "MB") free
  else
    whole .used (str "MB") (usedLimit info percent)

def item (config : Config) (info : DiskInfo) : Item Capacity where
  label := info.path
  value := whole .used (str "MB") info.used
  warning := some (limit info config.warningFree config.warningPercent)
  critical := some (limit info config.criticalFree config.criticalPercent)
  min := some (whole .size (str "MB") info.total)
  max := some (whole .size (str "MB") 0)

/-- The item of each path leads to the code that the check of this path alone returns. -/
def Reproduces (statvfs : FileSystem) (config : Config) : Prop :=
  ∀ path ∈ config.checkedPaths, ∀ info, getDiskInfo statvfs path = .ok info
    → (check statvfs { config with paths := [path] }).perfdata = (item config info).text
        ∧
      (item config info).Reproduces (check statvfs { config with paths := [path] }).code

/-- There is no space to measure, and the bounds that percentages stand for are zero. -/
def Blank (config : Config) (info : DiskInfo) : Prop :=
  config.warningFree ≤ 0 ∧ config.criticalFree ≤ 0
    ∧ info.total = 0 ∧ info.used = 0
    ∧ limitFits info config.warningFree config.warningPercent = true
    ∧ limitFits info config.criticalFree config.criticalPercent = true

theorem getDiskInfo_spec {statvfs : FileSystem} {path : Bytes} {info : DiskInfo}
    (h : getDiskInfo statvfs path = .ok info)
    : 0 ≤ info.total ∧ 0 ≤ info.used
        ∧ info.freePercent
          = (100
            - ((.ofLongLong info.used / .ofLongLong info.total : Double).round * 100).round).round := by
  unfold getDiskInfo at h
  cases hstat : statvfs path with
  | error errno =>
    rw [hstat] at h
    contradiction
  | ok vfs =>
    rw [hstat] at h
    injection h with h
    subst h
    refine ⟨?_, ?_, rfl⟩
    . apply Int.natCast_nonneg
    . apply Int.natCast_nonneg

theorem limit_text (info : DiskInfo) (free : Int) (percent : Double)
    : (limit info free percent).text
        =
      intDec (if free > 0 then free else usedLimit info percent) := by
  unfold limit
  split
  . apply whole_text
  . apply whole_text

theorem perfdataItem_eq_text (config : Config) (info : DiskInfo)
    : perfdataItem config info = (item config info).text := by
  unfold perfdataItem item Item.text
  simp only [fields, limit_text, whole_text, List.append_nil, List.append_assoc]
  rfl

theorem check_of_readable {statvfs : FileSystem} {config : Config} {path : Bytes} {info : DiskInfo}
    (h : getDiskInfo statvfs path = .ok info)
    : (check statvfs { config with paths := [path] }).perfdata = (item config info).text
        ∧
      (check statvfs { config with paths := [path] }).code = pathCode statvfs config path := by
  constructor
  . show (Report.add statvfs { config with paths := [path] } {} path).perfdata = _
    unfold Report.add
    rw [h, ← perfdataItem_eq_text]
    rfl
  . apply check_singleton

theorem usedLimit_of_blank {info : DiskInfo} (htotal : info.total = 0) {free : Int}
    (hfree : free ≤ 0) (percent : Double)
    : usedLimit info percent = if limitFits info free percent = true then 0 else -2 ^ 63 := by
  have hunset : decide (free > 0) = false := by simp [hfree]
  have hzero : (Double.fin 0).round = .fin 0 := by decide +kernel
  unfold usedLimit limitFits usedShare Double.ofLongLong
  rw [htotal, hunset, Bool.false_or, Double.ofInt_eq_fin, Int.cast_zero, hzero]
  cases (100 - percent).round with
  | nan => rfl
  | inf negative => rfl
  | fin q =>
    rw [Double.fin_mul_fin, zero_mul, hzero]
    decide +kernel

theorem exceeds_limit_iff {info : DiskInfo} (htotal : info.total = 0) (hused : info.used = 0)
    {free : Int} (hfree : free ≤ 0) (percent : Double)
    : exceeds (.fin info.used) (some (limit info free percent)) = true
        ↔
      limitFits info free percent ≠ true := by
  unfold exceeds limit
  rw [if_neg (by omega), usedLimit_of_blank htotal hfree, hused]
  simp only [whole_printed]
  split
  . next hfits => simp [hfits]
  . next hfits => simp [hfits]

theorem judge_item_iff {config : Config} {info : DiskInfo} (htotal : info.total = 0)
    (hused : info.used = 0) (hwarning : config.warningFree ≤ 0) (hcritical : config.criticalFree ≤ 0)
    : (item config info).judge = .ok
        ↔
      limitFits info config.warningFree config.warningPercent = true
        ∧ limitFits info config.criticalFree config.criticalPercent = true := by
  have hw := exceeds_limit_iff htotal hused hwarning config.warningPercent
  have hc := exceeds_limit_iff htotal hused hcritical config.criticalPercent
  rw [Item.judge_eq_ok_iff]
  unfold item
  simp only [whole_printed]
  rw [hc, hw, not_not, not_not, and_comm]

theorem pathCode_of_blank {statvfs : FileSystem} {config : Config} {path : Bytes} {info : DiskInfo}
    (h : getDiskInfo statvfs path = .ok info) (htotal : info.total = 0) (hused : info.used = 0)
    (hwarning : config.warningFree ≤ 0) (hcritical : config.criticalFree ≤ 0)
    : pathCode statvfs config path = .ok := by
  have hfree : info.freePercent = .nan := by
    rw [(getDiskInfo_spec h).2.2, htotal, hused]
    decide +kernel
  unfold pathCode checkThresholds
  rw [h]
  simp [hfree, Int.not_lt.mpr hwarning, Int.not_lt.mpr hcritical]

theorem uniform_item_iff (config : Config) (info : DiskInfo)
    : (item config info).Uniform ↔ config.warningFree ≤ 0 ∧ config.criticalFree ≤ 0 := by
  have hlimit : ∀ free percent,
      (limit info free percent).quantity = .used ∧ (limit info free percent).uom = str "MB"
        ↔
      free ≤ 0 := by
    intro free percent
    unfold limit
    split
    . next h => exact iff_of_false (by simp [whole]) (by omega)
    . next h => exact iff_of_true ⟨rfl, rfl⟩ (by omega)
  constructor
  . intro h
    constructor
    . exact (hlimit _ _).mp (h _ (.inl rfl))
    . exact (hlimit _ _).mp (h _ (.inr rfl))
  . rintro ⟨hwarning, hcritical⟩ threshold hthreshold
    cases hthreshold with
    | inl heq =>
      injection heq with heq
      rw [← heq]
      exact (hlimit _ _).mpr hwarning
    | inr heq =>
      injection heq with heq
      rw [← heq]
      exact (hlimit _ _).mpr hcritical

theorem inRange_item_iff {config : Config} {info : DiskInfo} (htotal : 0 ≤ info.total)
    (hused : 0 ≤ info.used)
    : (item config info).InRange ↔ info.total = 0 ∧ info.used = 0 := by
  unfold Item.InRange item
  simp only [Option.some.injEq, forall_eq', whole_printed, Double.fin_le_fin, Int.cast_le]
  omega

theorem reproduces_item_iff {statvfs : FileSystem} {config : Config} {path : Bytes}
    {info : DiskInfo} (h : getDiskInfo statvfs path = .ok info)
    : (item config info).Reproduces (pathCode statvfs config path) ↔ Blank config info := by
  obtain ⟨htotal, hused, _⟩ := getDiskInfo_spec h
  constructor
  . rintro ⟨huniform, hjudge, hrange⟩
    obtain ⟨hwarning, hcritical⟩ := (uniform_item_iff config info).mp huniform
    obtain ⟨hzero, hzero'⟩ := (inRange_item_iff htotal hused).mp hrange
    rw [pathCode_of_blank h hzero hzero' hwarning hcritical,
      judge_item_iff hzero hzero' hwarning hcritical] at hjudge
    exact ⟨hwarning, hcritical, hzero, hzero', hjudge⟩
  . rintro ⟨hwarning, hcritical, hzero, hzero', hfits⟩
    constructor
    . exact (uniform_item_iff config info).mpr ⟨hwarning, hcritical⟩
    . rw [pathCode_of_blank h hzero hzero' hwarning hcritical]
      exact (judge_item_iff hzero hzero' hwarning hcritical).mpr hfits
    . exact (inRange_item_iff htotal hused).mpr ⟨hzero, hzero'⟩

theorem reproduces_iff (statvfs : FileSystem) (config : Config)
    : Reproduces statvfs config
        ↔
      ∀ path ∈ config.checkedPaths, ∀ info, getDiskInfo statvfs path = .ok info
        → Blank config info := by
  unfold Reproduces
  constructor
  . intro h path hpath info hinfo
    have hitem := (h path hpath info hinfo).2
    rw [(check_of_readable hinfo).2] at hitem
    exact (reproduces_item_iff hinfo).mp hitem
  . intro h path hpath info hinfo
    constructor
    . exact (check_of_readable hinfo).1
    . rw [(check_of_readable hinfo).2]
      exact (reproduces_item_iff hinfo).mpr (h path hpath info hinfo)

end DiskPlugin

namespace SwapPlugin

def threshold (swap : SwapInfo) (free : Int) (percent : Double) : Option (Amount Capacity) :=
  if free > 0 ∨ percent > 0 then
    some (whole .free (str "KB") (bound free percent swap.total))
  else
    none

/-- A critical bound without a warning bound stands in the field of the warning. -/
def item (config : Config) (swap : SwapInfo) : Item Capacity :=
  let warning := threshold swap config.warningFree config.warningPercent
  let critical := threshold swap config.criticalFree config.criticalPercent
  { label := str "swap_used_percent"
    value := { quantity := .used, uom := str "%", number := usedPercent swap, decimals := 1 }
    warning := warning.or critical
    critical := if warning.isSome then critical else none }

def amounts (swap : SwapInfo) : Bytes :=
  str "swap_total=" ++ intDec swap.total ++ str "KB "
    ++ str "swap_used=" ++ intDec swap.used ++ str "KB "
    ++ str "swap_free=" ++ intDec swap.free ++ str "KB "

def Reproduces (sysinfo : Option SysInfo) (config : Config) : Prop :=
  ∀ swap, getSwapInfo sysinfo = .ok swap → swap.total ≠ 0
    → (check sysinfo config).perfdata = amounts swap ++ (item config swap).text
        ∧
      (item config swap).Reproduces (check sysinfo config).code

def HasThreshold (config : Config) : Prop :=
  (config.warningFree > 0 ∨ config.warningPercent > 0)
    ∨ (config.criticalFree > 0 ∨ config.criticalPercent > 0)

theorem fields_pair (warning critical : Option (Amount Capacity))
    : fields [warning.or critical, if warning.isSome then critical else none, none, none]
        =
      fields [warning] ++ fields [critical] := by
  cases warning with
  | none => cases critical <;> simp [fields]
  | some amount => cases critical <;> simp [fields]

theorem fields_threshold (swap : SwapInfo) (free : Int) (percent : Double)
    : fields [threshold swap free percent]
        =
      if free > 0 ∨ percent > 0 then str ";" ++ intDec (bound free percent swap.total) else [] := by
  unfold threshold
  split
  . simp [fields]
  . rfl

theorem perfdata_eq_text (config : Config) (swap : SwapInfo)
    : perfdata config swap = amounts swap ++ (item config swap).text := by
  unfold perfdata amounts item Item.text
  dsimp only
  have hlabel : str "swap_used_percent=" = str "swap_used_percent" ++ str "=" := by decide
  rw [fields_pair, fields_threshold, fields_threshold, hlabel]
  simp only [List.append_assoc, Amount.text]

theorem check_of_swap {sysinfo : Option SysInfo} {swap : SwapInfo}
    (h : getSwapInfo sysinfo = .ok swap) (hswap : swap.total ≠ 0) (config : Config)
    : (check sysinfo config).perfdata = amounts swap ++ (item config swap).text
        ∧
      (check sysinfo config).code = checkThresholds config swap := by
  unfold check
  rw [h]
  dsimp only
  rw [if_neg hswap]
  exact ⟨perfdata_eq_text config swap, rfl⟩

theorem not_uniform_of_hasThreshold {config : Config} (h : HasThreshold config) (swap : SwapInfo)
    : ¬ (item config swap).Uniform := by
  have hitem : ∃ amount, (item config swap).warning = some amount ∧ amount.quantity = .free := by
    unfold item threshold
    dsimp only
    by_cases hwarning : config.warningFree > 0 ∨ config.warningPercent > 0
    . rw [if_pos hwarning]
      exact ⟨_, rfl, rfl⟩
    . rw [if_neg hwarning, if_pos (h.resolve_left hwarning)]
      exact ⟨_, rfl, rfl⟩
  intro huniform
  obtain ⟨amount, hamount, hfree⟩ := hitem
  have hused := (huniform amount (.inl hamount)).1
  rw [hfree] at hused
  contradiction

theorem reproduces_item_iff (config : Config) (swap : SwapInfo)
    : (item config swap).Reproduces (checkThresholds config swap) ↔ ¬ HasThreshold config := by
  constructor
  . intro h hthreshold
    exact not_uniform_of_hasThreshold hthreshold swap h.uniform
  . intro h
    unfold HasThreshold at h
    rw [not_or] at h
    obtain ⟨hwarning, hcritical⟩ := h
    have hitem : (item config swap).warning = none ∧ (item config swap).critical = none := by
      unfold item threshold
      rw [if_neg hwarning, if_neg hcritical]
      exact ⟨rfl, rfl⟩
    rw [not_or] at hwarning hcritical
    constructor
    . simp [Item.Uniform, hitem]
    . unfold Item.judge checkThresholds
      rw [hitem.1, hitem.2]
      simp only [exceeds, hwarning, hcritical, false_and, if_false]
      rfl
    . simp [Item.InRange, item]

theorem reproduces_iff (sysinfo : Option SysInfo) (config : Config)
    : Reproduces sysinfo config
        ↔
      ((∃ swap, getSwapInfo sysinfo = .ok swap ∧ swap.total ≠ 0) → ¬ HasThreshold config) := by
  unfold Reproduces
  constructor
  . rintro h ⟨swap, hswap, htotal⟩
    have hitem := (h swap hswap htotal).2
    rw [(check_of_swap hswap htotal config).2] at hitem
    exact (reproduces_item_iff config swap).mp hitem
  . intro h swap hswap htotal
    constructor
    . exact (check_of_swap hswap htotal config).1
    . rw [(check_of_swap hswap htotal config).2]
      exact (reproduces_item_iff config swap).mpr (h ⟨swap, hswap, htotal⟩)

end SwapPlugin

/--
The published thresholds of `check_disk` lead to its codes only where there is no space to measure,
and those of `check_swap` only where it publishes none.
-/
theorem capacity_reproduces_iff (statvfs : DiskPlugin.FileSystem) (disk : DiskPlugin.Config)
    (sysinfo : Option SwapPlugin.SysInfo) (swap : SwapPlugin.Config)
    : (DiskPlugin.Reproduces statvfs disk
          ↔
        ∀ path ∈ disk.checkedPaths, ∀ info, DiskPlugin.getDiskInfo statvfs path = .ok info
          → DiskPlugin.Blank disk info)
        ∧
      (SwapPlugin.Reproduces sysinfo swap
          ↔
        ((∃ info, SwapPlugin.getSwapInfo sysinfo = .ok info ∧ info.total ≠ 0)
          → ¬ SwapPlugin.HasThreshold swap)) := by
  constructor
  . apply DiskPlugin.reproduces_iff
  . apply SwapPlugin.reproduces_iff

def halfUsed : DiskPlugin.FileSystem := fun _ =>
  .ok { f_frsize := 1048576, f_blocks := 100, f_bfree := 50, f_bavail := 50 }

def nearlyFullSwap : SwapPlugin.SysInfo :=
  { totalswap := 1024000, freeswap := 51200, mem_unit := 1 }

theorem capacity_not_reproduced
    : (DiskPlugin.check halfUsed { warningFree := 20, criticalFree := 10 }).code = .ok
        ∧
      (DiskPlugin.check halfUsed { warningFree := 20, criticalFree := 10 }).perfdata
          =
        str "/=50MB;20;10;100;0"
        ∧
      ¬ DiskPlugin.Reproduces halfUsed { warningFree := 20, criticalFree := 10 }
        ∧
      (SwapPlugin.check (some nearlyFullSwap) { warningPercent := 20, criticalPercent := 10 }).code
          =
        .critical
        ∧
      (SwapPlugin.check (some nearlyFullSwap)
          { warningPercent := 20, criticalPercent := 10 }).perfdata
          =
        str "swap_total=1000KB swap_used=950KB swap_free=50KB swap_used_percent=95.0%;200;100"
        ∧
      ¬ SwapPlugin.Reproduces (some nearlyFullSwap)
          { warningPercent := 20, criticalPercent := 10 } := by
  refine ⟨by decide +kernel, by decide +kernel, ?_, by decide +kernel, by decide +kernel, ?_⟩
  . intro h
    have hjudge := (h (str "/") List.mem_cons_self _ rfl).2.judge
    revert hjudge
    decide +kernel
  . intro h
    have hjudge := (h { total := 1000, used := 950, free := 50 } (by decide +kernel)
      (by decide)).2.judge
    revert hjudge
    decide +kernel

end NetmonPlugins

import Mathlib.Data.UInt
import NetmonPlugins.Common.Severity
import NetmonPlugins.Plugins.Disk.Order

/-!
This module determines what `check_disk` makes of a file system without free space and of one that
is too small to be measured in MB.
-/

namespace NetmonPlugins
namespace DiskPlugin

namespace StatVfs

variable (vfs : StatVfs)

/-- The size in bytes as 64 bits hold it. -/
def size : Nat := vfs.f_blocks.toNat * vfs.f_frsize.toNat % 2 ^ 64

def totalMB : Nat := vfs.size / 2 ^ 20

/-- The blocks that are not free even for the superuser. -/
def usedMB : Nat :=
  ((((vfs.f_blocks.toNat : Int) - vfs.f_bfree.toNat) * vfs.f_frsize.toNat) % 2 ^ 64).toNat / 2 ^ 20

def availableMB : Nat := vfs.f_bavail.toNat * vfs.f_frsize.toNat % 2 ^ 64 / 2 ^ 20

/-- The share of the used blocks in percent, after two rounded operations. -/
def usedShare : ℚ := binary64.round (binary64.round (vfs.usedMB / vfs.totalMB) * 100)

/-- The blocks that are free for the superuser are a share of less than `percent`. -/
def FreeBelow (percent : Double) : Prop :=
  if vfs.totalMB = 0 then
    vfs.usedMB ≠ 0
  else
    .fin (binary64.round (100 - vfs.usedShare)) < percent

instance (percent : Double) : Decidable (vfs.FreeBelow percent) :=
  inferInstanceAs (Decidable (if vfs.totalMB = 0 then vfs.usedMB ≠ 0 else _ < percent))

theorem toNat_megabytes (bytes : UInt64) : megabytes bytes = (bytes.toNat / 2 ^ 20 : Nat) := by
  unfold megabytes
  rw [UInt64.toNat_div]
  rfl

theorem megabytes_total : megabytes (vfs.f_blocks * vfs.f_frsize) = vfs.totalMB := by
  rw [toNat_megabytes, UInt64.toNat_mul]
  rfl

theorem megabytes_available : megabytes (vfs.f_bavail * vfs.f_frsize) = vfs.availableMB := by
  rw [toNat_megabytes, UInt64.toNat_mul]
  rfl

theorem toNat_used
    : (vfs.f_blocks * vfs.f_frsize - vfs.f_bfree * vfs.f_frsize).toNat
        =
      ((((vfs.f_blocks.toNat : Int) - vfs.f_bfree.toNat) * vfs.f_frsize.toNat) % 2 ^ 64).toNat := by
  rw [UInt64.toNat_sub, UInt64.toNat_mul, UInt64.toNat_mul, Int.sub_mul]
  generalize hblocks : vfs.f_blocks.toNat * vfs.f_frsize.toNat = blocks
  generalize hfree : vfs.f_bfree.toNat * vfs.f_frsize.toNat = free
  have hblocks' : (vfs.f_blocks.toNat : Int) * vfs.f_frsize.toNat = blocks := by
    exact_mod_cast hblocks
  have hfree' : (vfs.f_bfree.toNat : Int) * vfs.f_frsize.toNat = free := by exact_mod_cast hfree
  rw [hblocks', hfree']
  omega

theorem megabytes_used
    : megabytes (vfs.f_blocks * vfs.f_frsize - vfs.f_bfree * vfs.f_frsize) = vfs.usedMB := by
  rw [toNat_megabytes, toNat_used]
  rfl

end StatVfs

def usedPercent (vfs : StatVfs) : Double :=
  ((.ofLongLong vfs.usedMB / .ofLongLong vfs.totalMB : Double).round * 100).round

/-- The record that `getDiskInfo` fills in. -/
def StatVfs.info (vfs : StatVfs) (path : Bytes) : DiskInfo where
  path := path
  total := vfs.totalMB
  used := vfs.usedMB
  available := vfs.availableMB
  usedPercent := usedPercent vfs
  freePercent := (100 - usedPercent vfs).round

@[simp]
theorem StatVfs.info_total (vfs : StatVfs) (path : Bytes) : (vfs.info path).total = vfs.totalMB :=
  rfl

@[simp]
theorem StatVfs.info_available (vfs : StatVfs) (path : Bytes)
    : (vfs.info path).available = vfs.availableMB := rfl

@[simp]
theorem StatVfs.info_freePercent (vfs : StatVfs) (path : Bytes)
    : (vfs.info path).freePercent = (100 - usedPercent vfs).round := by
  unfold StatVfs.info
  dsimp only

theorem getDiskInfo_of_ok {statvfs : FileSystem} {path : Bytes} {vfs : StatVfs}
    (h : statvfs path = .ok vfs)
    : getDiskInfo statvfs path = .ok (vfs.info path) := by
  unfold getDiskInfo
  rw [h]
  dsimp only
  rw [StatVfs.megabytes_total, StatVfs.megabytes_available, StatVfs.megabytes_used]
  unfold StatVfs.info usedPercent
  rfl

theorem usedMB_lt (vfs : StatVfs) : vfs.usedMB < 2 ^ 44 := by
  unfold StatVfs.usedMB
  omega

theorem totalMB_lt (vfs : StatVfs) : vfs.totalMB < 2 ^ 44 := by
  unfold StatVfs.totalMB StatVfs.size
  omega

/-- Neither of the two numbers is rounded when it is converted. -/
theorem usedPercent_eq (vfs : StatVfs)
    : usedPercent vfs = ((Double.fin vfs.usedMB / .fin vfs.totalMB).round * 100).round := by
  have hused := usedMB_lt vfs
  have htotal := totalMB_lt vfs
  unfold usedPercent
  rw [Double.ofLongLong_of_lt (by omega), Double.ofLongLong_of_lt (by omega), Int.cast_natCast,
    Int.cast_natCast]

theorem usedPercent_of_blank {vfs : StatVfs} (htotal : vfs.totalMB = 0) (hused : vfs.usedMB = 0)
    : usedPercent vfs = .nan := by
  rw [usedPercent_eq, htotal, hused]
  rfl

/-- More blocks are free than there are. -/
theorem usedPercent_of_wrapped {vfs : StatVfs} (htotal : vfs.totalMB = 0) (hused : vfs.usedMB ≠ 0)
    : usedPercent vfs = .inf false := by
  have hpos : (0 : ℚ) < vfs.usedMB := by exact_mod_cast Nat.pos_of_ne_zero hused
  rw [usedPercent_eq, htotal]
  show ((((Double.fin vfs.usedMB).div (.fin 0)).round).mul (.fin 100)).round = .inf false
  simp [Double.div, hpos.ne', not_lt_of_gt hpos, Double.mul, Double.round]

theorem hundred : (100 : Double) = .fin 100 := by
  rw [Double.ofNat_eq_fin]
  norm_num

theorem abs_usedShare_le {vfs : StatVfs} (htotal : vfs.totalMB ≠ 0)
    : |binary64.round (vfs.usedMB / vfs.totalMB) * 100| ≤ 2 ^ 51
        ∧ |(vfs.usedMB / vfs.totalMB : ℚ)| ≤ 2 ^ 44 := by
  have hone : (1 : ℚ) ≤ vfs.totalMB := by exact_mod_cast Nat.one_le_iff_ne_zero.mpr htotal
  have hused : (vfs.usedMB : ℚ) ≤ 2 ^ 44 := by exact_mod_cast (usedMB_lt vfs).le
  have hquotient : |(vfs.usedMB / vfs.totalMB : ℚ)| ≤ 2 ^ 44 := by
    rw [abs_of_nonneg (by positivity)]
    exact (div_le_self (by positivity) hone).trans hused
  have hround : |binary64.round (vfs.usedMB / vfs.totalMB)| ≤ 2 ^ (44 : Int) :=
    binary64.abs_round_le (by decide) (by decide) (by exact_mod_cast hquotient)
  refine ⟨?_, hquotient⟩
  rw [abs_mul]
  norm_num at hround ⊢
  linarith

theorem usedPercent_of_measured {vfs : StatVfs} (htotal : vfs.totalMB ≠ 0)
    : usedPercent vfs = .fin vfs.usedShare := by
  have hne : (vfs.totalMB : ℚ) ≠ 0 := by exact_mod_cast htotal
  obtain ⟨hshare, hquotient⟩ := abs_usedShare_le htotal
  rw [usedPercent_eq, Double.fin_div_fin _ _ hne,
    Double.round_fin_of_abs_le (hquotient.trans (by norm_num)), hundred, Double.fin_mul_fin,
    Double.round_fin_of_abs_le (hshare.trans (by norm_num)), StatVfs.usedShare]

theorem freePercent_of_measured {vfs : StatVfs} (htotal : vfs.totalMB ≠ 0)
    : (100 - usedPercent vfs).round = .fin (binary64.round (100 - vfs.usedShare)) := by
  have hshare : |vfs.usedShare| ≤ 2 ^ (51 : Int) :=
    binary64.abs_round_le (by decide) (by decide) (by exact_mod_cast (abs_usedShare_le htotal).1)
  rw [usedPercent_of_measured htotal, hundred, Double.fin_sub_fin]
  apply Double.round_fin_of_abs_le
  rw [abs_le] at hshare ⊢
  norm_num at hshare ⊢
  constructor
  . linarith
  . linarith

theorem neg_inf_lt {percent : Double} (h : percent > 0) : Double.inf true < percent := by
  cases percent with
  | nan => exact absurd h (Double.not_lt_nan _)
  | inf negative =>
    cases negative with
    | false => decide
    | true => exact absurd h (by decide)
  | fin q => rfl

theorem freePercent_lt_iff (vfs : StatVfs) {percent : Double} (hpercent : percent > 0)
    : (100 - usedPercent vfs).round < percent ↔ vfs.FreeBelow percent := by
  unfold StatVfs.FreeBelow
  by_cases htotal : vfs.totalMB = 0
  . rw [if_pos htotal]
    by_cases hused : vfs.usedMB = 0
    . rw [usedPercent_of_blank htotal hused]
      exact iff_of_false (Double.not_nan_lt _) (by simp [hused])
    . rw [usedPercent_of_wrapped htotal hused]
      exact iff_of_true (neg_inf_lt hpercent) hused
  . rw [if_neg htotal, freePercent_of_measured htotal]

section

variable {statvfs : FileSystem} {config : Config} {path : Bytes} {info : DiskInfo}
  (h : getDiskInfo statvfs path = .ok info)

include h

theorem pathCode_eq_ladder
    : pathCode statvfs config path
        =
      ladder
        ((config.criticalFree > 0 ∧ info.available < config.criticalFree)
          ∨ (config.criticalPercent > 0 ∧ info.freePercent < config.criticalPercent))
        ((config.warningFree > 0 ∧ info.available < config.warningFree)
          ∨ (config.warningPercent > 0 ∧ info.freePercent < config.warningPercent)) := by
  unfold pathCode
  rw [h]
  exact ite_flags _ _ _ rfl

theorem pathCode_critical_iff
    : pathCode statvfs config path = .critical
        ↔
      (config.criticalFree > 0 ∧ info.available < config.criticalFree)
        ∨ (config.criticalPercent > 0 ∧ info.freePercent < config.criticalPercent) := by
  rw [pathCode_eq_ladder h, ladder_eq_critical_iff]

theorem pathCode_ok_iff
    : pathCode statvfs config path = .ok
        ↔
      ¬ (config.criticalFree > 0 ∧ info.available < config.criticalFree)
        ∧ ¬ (config.criticalPercent > 0 ∧ info.freePercent < config.criticalPercent)
        ∧ ¬ (config.warningFree > 0 ∧ info.available < config.warningFree)
        ∧ ¬ (config.warningPercent > 0 ∧ info.freePercent < config.warningPercent) := by
  rw [pathCode_eq_ladder h, ladder_eq_ok_iff, not_or, not_or, and_assoc]

end

/--
A file system without space for the unprivileged is critical if and only if a limit for free space
is set, or the blocks that the superuser has left are a share below the critical percentage.
-/
theorem full_critical_iff (statvfs : FileSystem) (config : Config) (path : Bytes) (vfs : StatVfs)
    (hstat : statvfs path = .ok vfs) (havail : vfs.f_bavail = 0)
    (hpercent : config.criticalPercent > 0)
    : (check statvfs { config with paths := [path] }).code = .critical
        ↔
      config.criticalFree > 0 ∨ vfs.FreeBelow config.criticalPercent := by
  have havailable : vfs.availableMB = 0 := by
    unfold StatVfs.availableMB
    rw [havail]
    simp
  rw [check_singleton, pathCode_critical_iff (getDiskInfo_of_ok hstat)]
  rw [StatVfs.info_available, StatVfs.info_freePercent, havailable, freePercent_lt_iff vfs hpercent,
    and_iff_right hpercent]
  simp

def reserved : FileSystem := fun _ =>
  .ok { f_frsize := 4096, f_blocks := 1000000, f_bfree := 100000, f_bavail := 0 }

def unreserved : FileSystem := fun _ =>
  .ok { f_frsize := 4096, f_blocks := 1000000, f_bfree := 0, f_bavail := 0 }

theorem full_critical_of_unreserved
    : (check unreserved { paths := [str "/"] }).code = .critical := by
  apply (full_critical_iff unreserved {} (str "/") _ rfl rfl (by decide)).mpr
  right
  decide +kernel

/-- A tenth of the blocks is reserved: nothing is left for others, and the check is content. -/
theorem full_ok_of_reserved
    : (check reserved { paths := [str "/"] }).code = .ok := by
  decide +kernel

theorem totalMB_eq_zero_iff (vfs : StatVfs) : vfs.totalMB = 0 ↔ vfs.size < 2 ^ 20 := by
  unfold StatVfs.totalMB
  rw [Nat.div_eq_zero_iff]
  simp

/-- What is undefined is no reason for a warning, but an infinite percentage is one. -/
theorem ok_of_unmeasured_iff {statvfs : FileSystem} {config : Config} {path : Bytes} {vfs : StatVfs}
    (hstat : statvfs path = .ok vfs) (htotal : vfs.totalMB = 0)
    : (check statvfs { config with paths := [path] }).code = .ok
        ↔
      config.criticalFree ≤ vfs.availableMB
        ∧ config.warningFree ≤ vfs.availableMB
        ∧ (vfs.usedMB ≠ 0 → ¬ config.criticalPercent > 0 ∧ ¬ config.warningPercent > 0) := by
  have hlimit : ∀ {percent : Double},
      percent > 0 ∧ (100 - usedPercent vfs).round < percent ↔ vfs.usedMB ≠ 0 ∧ percent > 0 := by
    intro percent
    rw [and_comm, and_congr_left_iff]
    intro hpercent
    rw [freePercent_lt_iff vfs hpercent, StatVfs.FreeBelow, if_pos htotal]
  have hfree : ∀ {free : Int},
      ¬ (free > 0 ∧ (vfs.availableMB : Int) < free) ↔ free ≤ vfs.availableMB := by
    intro free
    omega
  rw [check_singleton, pathCode_ok_iff (getDiskInfo_of_ok hstat), StatVfs.info_available,
    StatVfs.info_freePercent, hfree, hfree, hlimit, hlimit]
  tauto

theorem forall_info_iff {statvfs : FileSystem} {path : Bytes} {p : DiskInfo → Prop}
    : (∀ info, getDiskInfo statvfs path = .ok info → p info)
        ↔
      ∀ vfs, statvfs path = .ok vfs → p (vfs.info path) := by
  constructor
  . intro h vfs hstat
    exact h _ (getDiskInfo_of_ok hstat)
  . intro h info hinfo
    cases hstat : statvfs path with
    | error errno =>
      unfold getDiskInfo at hinfo
      rw [hstat] at hinfo
      contradiction
    | ok vfs =>
      rw [getDiskInfo_of_ok hstat, Except.ok.injEq] at hinfo
      rw [← hinfo]
      exact h vfs hstat

theorem total_info_ne_zero_iff (vfs : StatVfs) (path : Bytes)
    : (vfs.info path).total ≠ 0 ↔ 2 ^ 20 ≤ vfs.size := by
  rw [StatVfs.info_total, Int.natCast_ne_zero, ne_eq, totalMB_eq_zero_iff, Nat.not_lt]

/--
The size is no zero divisor if and only if it is one MB at least; a path without a size is not OK if
and only if a limit for free space is not met, or more blocks are free than there are.
-/
theorem undefined_percent_iff (statvfs : FileSystem) (config : Config) (path : Bytes)
    : ((∀ info, getDiskInfo statvfs path = .ok info → info.total ≠ 0)
          ∧
        (∀ info, getDiskInfo statvfs path = .ok info → info.total = 0
          → (check statvfs { config with paths := [path] }).code ≠ .ok)
          ↔
        ∀ vfs, statvfs path = .ok vfs → 2 ^ 20 ≤ vfs.size)
        ∧
      ((∀ info, getDiskInfo statvfs path = .ok info → info.total = 0
          → (check statvfs { config with paths := [path] }).code ≠ .ok)
          ↔
        ∀ vfs, statvfs path = .ok vfs
          → 2 ^ 20 ≤ vfs.size
            ∨ (vfs.availableMB : Int) < config.criticalFree
            ∨ (vfs.availableMB : Int) < config.warningFree
            ∨ vfs.usedMB ≠ 0 ∧ (config.criticalPercent > 0 ∨ config.warningPercent > 0)) := by
  constructor
  . rw [forall_info_iff]
    simp only [total_info_ne_zero_iff]
    constructor
    . exact fun h => h.1
    . intro h
      refine ⟨h, ?_⟩
      rw [forall_info_iff]
      intro vfs hstat htotal
      exact absurd htotal ((total_info_ne_zero_iff vfs path).mpr (h vfs hstat))
  . rw [forall_info_iff]
    constructor
    . intro h vfs hstat
      by_cases hsize : 2 ^ 20 ≤ vfs.size
      . exact .inl hsize
      . have htotal := (totalMB_eq_zero_iff vfs).mpr (Nat.lt_of_not_le hsize)
        have hnot := h vfs hstat (Int.natCast_eq_zero.mpr htotal)
        rw [ne_eq, ok_of_unmeasured_iff hstat htotal] at hnot
        right
        by_contra hother
        apply hnot
        simp only [not_or, Int.not_lt, not_and] at hother
        exact hother
    . intro h vfs hstat htotal hok
      have hzero := Int.natCast_eq_zero.mp htotal
      rw [ok_of_unmeasured_iff hstat hzero] at hok
      rw [totalMB_eq_zero_iff] at hzero
      rcases (h vfs hstat).resolve_left (Nat.not_le_of_lt hzero) with hfree | hfree | hused
      . exact absurd hok.1 (Int.not_le.mpr hfree)
      . exact absurd hok.2.1 (Int.not_le.mpr hfree)
      . obtain ⟨hcritical, hwarning⟩ := hok.2.2 hused.1
        exact hused.2.elim hcritical hwarning

def pseudo : FileSystem := fun _ =>
  .ok { f_frsize := 4096, f_blocks := 0, f_bfree := 0, f_bavail := 0 }

/-- A file system without blocks divides by zero and is OK. -/
theorem undefined_percent_of_pseudo
    : getDiskInfo pseudo (str "/proc")
          = .ok { path := str "/proc", total := 0, used := 0, available := 0, usedPercent := .nan
                  freePercent := .nan }
        ∧
      (check pseudo { paths := [str "/proc"] }).code = .ok := by
  decide +kernel

end DiskPlugin
end NetmonPlugins

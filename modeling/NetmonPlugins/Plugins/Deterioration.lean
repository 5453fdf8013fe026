import Mathlib.Data.List.Chain
import NetmonPlugins.Plugins.Disk.Space
import NetmonPlugins.Plugins.FileAge.Impl
import NetmonPlugins.Plugins.FileSize.Impl
import NetmonPlugins.Plugins.SeverityLadders
import NetmonPlugins.Plugins.SslValidity.Expiry
import NetmonPlugins.Plugins.Users.Impl

/-!
This module determines how the verdicts of a check that is run again and again follow each other
while what it watches only deteriorates: time passes, a file grows, space is used up, users log in.
-/

namespace NetmonPlugins
namespace DiskPlugin

/-- Blocks of a file system are taken, and none is given back. -/
structure StatVfs.Fills (vfs vfs' : StatVfs) : Prop where
  frsize_eq : vfs'.f_frsize = vfs.f_frsize
  blocks_eq : vfs'.f_blocks = vfs.f_blocks
  bfree_le : vfs'.f_bfree.toNat ≤ vfs.f_bfree.toNat
  bavail_le : vfs'.f_bavail.toNat ≤ vfs.f_bavail.toNat
  bfree_le_blocks : vfs.f_bfree.toNat ≤ vfs.f_blocks.toNat
  bavail_le_blocks : vfs.f_bavail.toNat ≤ vfs.f_blocks.toNat
  size_lt : vfs.f_blocks.toNat * vfs.f_frsize.toNat < 2 ^ 64

theorem StatVfs.usedMB_of_le {vfs : StatVfs} (hfree : vfs.f_bfree.toNat ≤ vfs.f_blocks.toNat)
    (hsize : vfs.f_blocks.toNat * vfs.f_frsize.toNat < 2 ^ 64)
    : vfs.usedMB = (vfs.f_blocks.toNat - vfs.f_bfree.toNat) * vfs.f_frsize.toNat / 2 ^ 20 := by
  have hle : (vfs.f_blocks.toNat - vfs.f_bfree.toNat) * vfs.f_frsize.toNat
      ≤ vfs.f_blocks.toNat * vfs.f_frsize.toNat := Nat.mul_le_mul_right _ (Nat.sub_le _ _)
  unfold StatVfs.usedMB
  rw [← Int.natCast_sub hfree, ← Int.natCast_mul, Int.emod_eq_of_lt (Int.natCast_nonneg _) (by omega),
    Int.toNat_natCast]

namespace StatVfs.Fills

variable {vfs vfs' : StatVfs} (h : vfs.Fills vfs')

include h

theorem size_eq : vfs'.size = vfs.size := by
  unfold StatVfs.size
  rw [h.frsize_eq, h.blocks_eq]

theorem totalMB_eq : vfs'.totalMB = vfs.totalMB := by
  unfold StatVfs.totalMB
  rw [h.size_eq]

theorem availableMB_le : vfs'.availableMB ≤ vfs.availableMB := by
  have hle : vfs'.f_bavail.toNat * vfs.f_frsize.toNat ≤ vfs.f_bavail.toNat * vfs.f_frsize.toNat :=
    Nat.mul_le_mul_right _ h.bavail_le
  have hsize : vfs.f_bavail.toNat * vfs.f_frsize.toNat
      ≤ vfs.f_blocks.toNat * vfs.f_frsize.toNat := Nat.mul_le_mul_right _ h.bavail_le_blocks
  have hlt := h.size_lt
  unfold StatVfs.availableMB
  rw [h.frsize_eq, Nat.mod_eq_of_lt (by omega), Nat.mod_eq_of_lt (by omega)]
  exact Nat.div_le_div_right hle

theorem usedMB_le : vfs.usedMB ≤ vfs'.usedMB := by
  have hfree' : vfs'.f_bfree.toNat ≤ vfs'.f_blocks.toNat := by
    rw [h.blocks_eq]
    exact Nat.le_trans h.bfree_le h.bfree_le_blocks
  have hsize' : vfs'.f_blocks.toNat * vfs'.f_frsize.toNat < 2 ^ 64 := by
    rw [h.blocks_eq, h.frsize_eq]
    exact h.size_lt
  rw [usedMB_of_le h.bfree_le_blocks h.size_lt, usedMB_of_le hfree' hsize', h.blocks_eq, h.frsize_eq]
  apply Nat.div_le_div_right
  apply Nat.mul_le_mul_right
  have hle := h.bfree_le
  omega

theorem usedShare_le : vfs.usedShare ≤ vfs'.usedShare := by
  have hused : (vfs.usedMB : ℚ) ≤ vfs'.usedMB := by exact_mod_cast h.usedMB_le
  unfold StatVfs.usedShare
  rw [h.totalMB_eq]
  apply binary64.round_mono
  apply mul_le_mul_of_nonneg_right _ (by norm_num)
  apply binary64.round_mono
  gcongr

theorem freeBelow_mono {percent : Double} (hbelow : vfs.FreeBelow percent)
    : vfs'.FreeBelow percent := by
  have hused := h.usedMB_le
  have hshare := h.usedShare_le
  unfold StatVfs.FreeBelow at hbelow ⊢
  rw [h.totalMB_eq]
  by_cases htotal : vfs.totalMB = 0
  . rw [if_pos htotal] at hbelow ⊢
    omega
  . rw [if_neg htotal] at hbelow ⊢
    apply Double.lt_of_le_of_lt _ hbelow
    rw [Double.fin_le_fin]
    apply binary64.round_mono
    linarith

end StatVfs.Fills

variable {statvfs statvfs' : FileSystem} {path : Bytes} {vfs vfs' : StatVfs}

theorem pathCode_ne_unknown (config : Config) (hstat : statvfs path = .ok vfs)
    : pathCode statvfs config path ≠ .unknown := by
  rw [pathCode_eq_ladder (getDiskInfo_of_ok hstat)]
  unfold ladder
  split
  . simp
  . split <;> simp

theorem toInt_pathCode_mono (config : Config) (hstat : statvfs path = .ok vfs)
    (hstat' : statvfs' path = .ok vfs') (h : vfs.Fills vfs')
    : (pathCode statvfs config path).toInt ≤ (pathCode statvfs' config path).toInt := by
  have hshort (free : Int) (percent : Double)
      (hshort : (free > 0 ∧ (vfs.info path).available < free)
        ∨ (percent > 0 ∧ (vfs.info path).freePercent < percent))
      : (free > 0 ∧ (vfs'.info path).available < free)
        ∨ (percent > 0 ∧ (vfs'.info path).freePercent < percent) := by
    rcases hshort with ⟨hset, hlt⟩ | ⟨hset, hlt⟩
    . left
      have hle := h.availableMB_le
      rw [StatVfs.info_available] at hlt ⊢
      omega
    . right
      rw [StatVfs.info_freePercent, freePercent_lt_iff _ hset] at hlt ⊢
      exact ⟨hset, h.freeBelow_mono hlt⟩
  rw [pathCode_eq_ladder (getDiskInfo_of_ok hstat), pathCode_eq_ladder (getDiskInfo_of_ok hstat')]
  exact toInt_ladder_mono (hshort _ _) (hshort _ _)

theorem overall_mono {code code' next next' : ExitCode} (h : code.toInt ≤ code'.toInt)
    (hnext : next.toInt ≤ next'.toInt) (hcode : code' ≠ .unknown) (hknown : next' ≠ .unknown)
    : (overall code next).toInt ≤ (overall code' next').toInt ∧ overall code' next' ≠ .unknown := by
  revert h hnext hcode hknown
  cases code <;> cases code' <;> cases next <;> cases next' <;> decide

theorem foldl_overall_mono {paths : List Bytes} {f f' : Bytes → ExitCode} {code code' : ExitCode}
    (h : ∀ path ∈ paths, (f path).toInt ≤ (f' path).toInt ∧ f' path ≠ .unknown)
    (hcode : code.toInt ≤ code'.toInt) (hknown : code' ≠ .unknown)
    : ((paths.map f).foldl overall code).toInt ≤ ((paths.map f').foldl overall code').toInt := by
  induction paths generalizing code code' with
  | nil => exact hcode
  | cons path paths ih =>
    have hpath := h path List.mem_cons_self
    have hstep := overall_mono hcode hpath.1 hknown hpath.2
    simp only [List.map_cons, List.foldl_cons]
    apply ih _ hstep.1 hstep.2
    exact fun other hmem => h other (List.mem_cons_of_mem path hmem)

theorem toInt_code_check_mono (config : Config)
    (h : ∀ path ∈ config.checkedPaths,
      ∃ vfs vfs', statvfs path = .ok vfs ∧ statvfs' path = .ok vfs' ∧ vfs.Fills vfs')
    : (check statvfs config).code.toInt ≤ (check statvfs' config).code.toInt := by
  rw [check_code, check_code]
  apply foldl_overall_mono
  . intro path hmem
    obtain ⟨vfs, vfs', hstat, hstat', hfills⟩ := h path hmem
    constructor
    . exact toInt_pathCode_mono config hstat hstat' hfills
    . exact pathCode_ne_unknown config hstat'
  . apply Int.le_refl
  . simp

end DiskPlugin

namespace SwapPlugin

/-- Swap space is taken, and none is given back. -/
structure SysInfo.Fills (info info' : SysInfo) : Prop where
  totalswap_eq : info'.totalswap = info.totalswap
  mem_unit_eq : info'.mem_unit = info.mem_unit
  freeswap_le : info'.freeswap.toNat ≤ info.freeswap.toNat
  freeswap_le_total : info.freeswap.toNat ≤ info.totalswap.toNat
  size_lt : info.totalswap.toNat * info.mem_unit.toNat < 2 ^ 64

theorem kilobytes_of_lt {units : UInt64} {mem_unit : UInt32}
    (h : units.toNat * mem_unit.toNat < 2 ^ 64)
    : kilobytes units mem_unit = (units.toNat * mem_unit.toNat / 1024 : Nat) := by
  unfold kilobytes
  rw [UInt64.toNat_div, UInt64.toNat_mul, UInt32.toNat_toUInt64, Nat.mod_eq_of_lt h]
  rfl

theorem toInt_code_check_mono (config : Config) {info info' : SysInfo} (h : info.Fills info')
    : (check (some info) config).code.toInt ≤ (check (some info') config).code.toInt := by
  have hunit : info'.freeswap.toNat * info.mem_unit.toNat
      ≤ info.freeswap.toNat * info.mem_unit.toNat := Nat.mul_le_mul_right _ h.freeswap_le
  have htotal : info.freeswap.toNat * info.mem_unit.toNat
      ≤ info.totalswap.toNat * info.mem_unit.toNat := Nat.mul_le_mul_right _ h.freeswap_le_total
  have hlt := h.size_lt
  apply Judges.mono ⟨some info, rfl, rfl⟩ ⟨some info', rfl, rfl⟩
  . dsimp only
    rw [h.totalswap_eq, h.mem_unit_eq]
  . dsimp only
    rw [h.mem_unit_eq, kilobytes_of_lt (by omega), kilobytes_of_lt (by omega)]
    exact_mod_cast Nat.div_le_div_right hunit

end SwapPlugin

namespace SslValidityPlugin

def Clock.localTime (clock : Clock) : Int := clock.now.seconds + clock.utcOffset.seconds

/-- Local time passes, up to a day behind the end of a certificate: then its end is taken for
unknown. -/
structure Peer.Ages (peer : Peer) (clock clock' : Clock) : Prop where
  localTime_le : clock.localTime ≤ clock'.localTime
  localTime_lt : ∀ notAfter, peer = .certificate (some notAfter)
    → clock'.localTime < notAfter.seconds + 86400

theorem toInt_code_check_mono (sslEnabled : Bool) {connect : Bytes → Int → Int → Peer}
    {config : Config} {clock clock' : Clock}
    (h : (connect config.hostname config.port config.timeoutSeconds).Ages clock clock')
    : (check sslEnabled connect clock config).code.toInt
        ≤
      (check sslEnabled connect clock' config).code.toInt := by
  generalize hpeer : connect config.hostname config.port config.timeoutSeconds = peer at h
  have hcheck (clock : Clock)
      : check sslEnabled connect clock config = check sslEnabled (fun _ _ _ => peer) clock config := by
    unfold check checkSslCertificate
    rw [hpeer]
  rw [hcheck, hcheck]
  by_cases hhost : config.hostname = []
  . simp [check, hhost]
  cases peer with
  | unreachable => exact Int.le_refl _
  | noCertificate => exact Int.le_refl _
  | certificate notAfter =>
    cases sslEnabled with
    | false => exact Int.le_refl _
    | true =>
      cases notAfter with
      | none => exact Int.le_refl _
      | some notAfter =>
        have hleft : -86400 < timeLeft clock' notAfter := by
          have hlt := h.localTime_lt notAfter rfl
          unfold Clock.localTime at hlt
          unfold timeLeft
          omega
        have hle : timeLeft clock' notAfter ≤ timeLeft clock notAfter := by
          have hle := h.localTime_le
          unfold Clock.localTime at hle
          unfold timeLeft
          omega
        show (verdict config clock notAfter).toInt ≤ (verdict config clock' notAfter).toInt
        rw [verdict_eq hhost, verdict_eq hhost]
        apply codeOfDays_anti config ((tdiv_day_nonneg_iff _).mpr hleft)
        exact Int.tdiv_le_tdiv (by decide) hle

end SslValidityPlugin

namespace FileAgePlugin

theorem toInt_checkThresholds_mono (config : Config) {age age' : Int} (h : age ≤ age')
    : (checkThresholds config age).1.toInt ≤ (checkThresholds config age').1.toInt := by
  have hladder (age : Int)
      : (checkThresholds config age).1
        = ladder (config.criticalAge ≥ 0 ∧ age ≥ config.criticalAge)
          (config.warningAge ≥ 0 ∧ age ≥ config.warningAge) := by
    simp only [checkThresholds, ladder, apply_ite Prod.fst]
  rw [hladder, hladder]
  apply toInt_ladder_mono
  . omega
  . omega

/-- Time passes for a file that is not from the future. -/
structure FileSystem.Ages (fileSystem : FileSystem) (path : Bytes) (now now' : Int) : Prop where
  now_le : now ≤ now'
  mtime_le : ∀ mtime, fileSystem.st_mtime path = some mtime → mtime ≤ now

theorem toInt_code_check_mono {fileSystem : FileSystem} {config : Config} {now now' : Int}
    (h : fileSystem.Ages config.filePath now now')
    : (check fileSystem now config).code.toInt ≤ (check fileSystem now' config).code.toInt := by
  unfold check
  split
  . apply Int.le_refl
  split
  . apply Int.le_refl
  unfold getFileAge
  cases hmtime : fileSystem.st_mtime config.filePath with
  | none => apply Int.le_refl
  | some mtime =>
    have hpast := h.mtime_le mtime hmtime
    have hle := h.now_le
    dsimp only
    rw [if_neg (by omega), if_neg (by omega)]
    apply toInt_checkThresholds_mono
    omega

end FileAgePlugin

namespace FileSizePlugin

theorem toInt_checkThresholds_mono (config : Config) {size size' : Int} (h : size ≤ size')
    : (checkThresholds config size).1.toInt ≤ (checkThresholds config size').1.toInt := by
  have hladder (size : Int)
      : (checkThresholds config size).1
        = ladder (config.criticalSize ≥ 0 ∧ size ≥ config.criticalSize)
          (config.warningSize ≥ 0 ∧ size ≥ config.warningSize) := by
    simp only [checkThresholds, ladder, apply_ite Prod.fst]
  rw [hladder, hladder]
  apply toInt_ladder_mono
  . omega
  . omega

/-- The file stays, and no byte of it is taken away. -/
structure FileSystem.Grows (path : Bytes) (fileSystem fileSystem' : FileSystem) : Prop where
  access : fileSystem.access path = true
  access' : fileSystem'.access path = true
  size_nonneg : 0 ≤ getFileSize fileSystem path
  size_le : getFileSize fileSystem path ≤ getFileSize fileSystem' path

theorem toInt_code_check_mono (config : Config) {fileSystem fileSystem' : FileSystem}
    (h : FileSystem.Grows config.filePath fileSystem fileSystem')
    : (check fileSystem config).code.toInt ≤ (check fileSystem' config).code.toInt := by
  have hnonneg := h.size_nonneg
  have hle := h.size_le
  unfold check
  rw [h.access, h.access']
  split
  . apply Int.le_refl
  . simp only [Bool.true_eq_false, if_false]
    rw [if_neg (by omega), if_neg (by omega)]
    exact toInt_checkThresholds_mono config hle

end FileSizePlugin

namespace LoadPlugin

structure SysInfo.Rises (info info' : SysInfo) : Prop where
  loads1_le : info.loads1.toNat ≤ info'.loads1.toNat
  loads5_le : info.loads5.toNat ≤ info'.loads5.toNat
  loads15_le : info.loads15.toNat ≤ info'.loads15.toNat

theorem toInt_code_check_mono (config : Config) {info info' : SysInfo} (h : info.Rises info')
    : (check (some info) config).code.toInt ≤ (check (some info') config).code.toInt := by
  have hload {loads loads' : Nat} (hle : loads ≤ loads')
      : (.ofLongLong loads / 65536 : Double).round ≤ (.ofLongLong loads' / 65536 : Double).round := by
    have hscale : (65536 : Double) = .fin 65536 := by
      rw [Double.ofNat_eq_fin]
      norm_num
    rw [hscale]
    apply Double.round_mono
    apply Double.div_fin_mono (by norm_num)
    apply Double.ofLongLong_mono
    exact_mod_cast hle
  rw [check_of_getLoadAverage rfl, check_of_getLoadAverage rfl, toInt_code_report, toInt_code_report]
  apply worst_mono
  . exact hload h.loads1_le
  . exact hload h.loads5_le
  . exact hload h.loads15_le

end LoadPlugin

namespace UsersPlugin

theorem getUserCount_eq (entries : List Utmp)
    : getUserCount entries = entries.countP (·.ut_type = USER_PROCESS) := by
  have hfold (count : Int) (entries : List Utmp)
      : entries.foldl (fun count entry =>
          if entry.ut_type = USER_PROCESS then count + 1 else count) count
        = count + entries.countP (·.ut_type = USER_PROCESS) := by
    induction entries generalizing count with
    | nil => simp
    | cons entry entries ih =>
      rw [List.foldl_cons, ih, List.countP_cons]
      by_cases huser : entry.ut_type = USER_PROCESS
      . simp [huser]
        omega
      . simp [huser]
  unfold getUserCount
  rw [hfold, Int.zero_add]

/-- As many log in as log out, or more; records of other types come and go. -/
def Stay (entries entries' : List Utmp) : Prop :=
  entries.countP (·.ut_type = USER_PROCESS) ≤ entries'.countP (·.ut_type = USER_PROCESS)

theorem toInt_code_check_mono (config : Config) {entries entries' : List Utmp}
    (h : Stay entries entries')
    : (check entries config).code.toInt ≤ (check entries' config).code.toInt := by
  have hle : getUserCount entries ≤ getUserCount entries' := by
    rw [getUserCount_eq, getUserCount_eq]
    exact_mod_cast h
  have hladder (entries : List Utmp)
      : (check entries config).code
        = ladder
          (config.criticalThreshold > 0 ∧ getUserCount entries ≥ config.criticalThreshold)
          (config.warningThreshold > 0 ∧ getUserCount entries ≥ config.warningThreshold) := by
    simp only [check, checkThresholds, ladder, apply_ite Prod.fst]
  rw [hladder, hladder]
  apply toInt_ladder_mono
  . omega
  . omega

end UsersPlugin

/-- A check with what stays as it is between its runs. -/
inductive Watch where
  | fileAge (fileSystem : FileAgePlugin.FileSystem) (config : FileAgePlugin.Config)
  | fileSize (config : FileSizePlugin.Config)
  | sslValidity (sslEnabled : Bool) (connect : Bytes → Int → Int → SslValidityPlugin.Peer)
    (config : SslValidityPlugin.Config)
  | disk (config : DiskPlugin.Config)
  | swap (config : SwapPlugin.Config)
  | load (config : LoadPlugin.Config)
  | users (config : UsersPlugin.Config)

namespace Watch

/-- What may be another at each run. -/
def State : Watch → Type
  | fileAge _ _ => Int
  | fileSize _ => FileSizePlugin.FileSystem
  | sslValidity _ _ _ => SslValidityPlugin.Clock
  | disk _ => DiskPlugin.FileSystem
  | swap _ => SwapPlugin.SysInfo
  | load _ => LoadPlugin.SysInfo
  | users _ => List UsersPlugin.Utmp

def code : (watch : Watch) → watch.State → ExitCode
  | fileAge fileSystem config, now => (FileAgePlugin.check fileSystem now config).code
  | fileSize config, fileSystem => (FileSizePlugin.check fileSystem config).code
  | sslValidity sslEnabled connect config, clock =>
    (SslValidityPlugin.check sslEnabled connect clock config).code
  | disk config, statvfs => (DiskPlugin.check statvfs config).code
  | swap config, sysinfo => (SwapPlugin.check (some sysinfo) config).code
  | load config, sysinfo => (LoadPlugin.check (some sysinfo) config).code
  | users config, entries => (UsersPlugin.check entries config).code

/-- From one run to the next, nothing gets better. -/
def Deteriorates : (watch : Watch) → watch.State → watch.State → Prop
  | fileAge fileSystem config, now, now' =>
    fileSystem.Ages config.filePath now now'
  | fileSize config, fileSystem, fileSystem' =>
    FileSizePlugin.FileSystem.Grows config.filePath fileSystem fileSystem'
  | sslValidity _ connect config, clock, clock' =>
    (connect config.hostname config.port config.timeoutSeconds).Ages clock clock'
  | disk config, statvfs, statvfs' =>
    ∀ path ∈ config.checkedPaths,
      ∃ vfs vfs', statvfs path = .ok vfs ∧ statvfs' path = .ok vfs' ∧ vfs.Fills vfs'
  | swap _, sysinfo, sysinfo' => sysinfo.Fills sysinfo'
  | load _, sysinfo, sysinfo' => sysinfo.Rises sysinfo'
  | users _, entries, entries' => UsersPlugin.Stay entries entries'

theorem toInt_code_mono (watch : Watch) {state state' : watch.State}
    (h : watch.Deteriorates state state')
    : (watch.code state).toInt ≤ (watch.code state').toInt := by
  cases watch with
  | fileAge fileSystem config => exact FileAgePlugin.toInt_code_check_mono h
  | fileSize config => exact FileSizePlugin.toInt_code_check_mono config h
  | sslValidity sslEnabled connect config =>
    exact SslValidityPlugin.toInt_code_check_mono sslEnabled h
  | disk config => exact DiskPlugin.toInt_code_check_mono config h
  | swap config => exact SwapPlugin.toInt_code_check_mono config h
  | load config => exact LoadPlugin.toInt_code_check_mono config h
  | users config => exact UsersPlugin.toInt_code_check_mono config h

/-- While what it watches only deteriorates, no verdict of a check is better than one before it. -/
theorem codes_sorted (watch : Watch) (states : List watch.State)
    (h : states.IsChain watch.Deteriorates)
    : (states.map fun state => (watch.code state).toInt).Pairwise (· ≤ ·) := by
  rw [← List.isChain_iff_pairwise, List.isChain_map]
  apply h.imp
  intro state state' hstep
  exact watch.toInt_code_mono hstep

def backup : Watch :=
  .fileAge { access := fun _ => true, st_mtime := fun _ => some 0 }
    { filePath := str "backup", warningAge := 3600, criticalAge := 86400 }

theorem codes_sorted_backup
    : (([100, 5000, 90000] : List Int).map fun now => (backup.code now).toInt).Pairwise (· ≤ ·) := by
  have hages {now now' : Int} (h : now ≤ now') (hpos : 0 ≤ now) : backup.Deteriorates now now' := by
    refine ⟨h, ?_⟩
    intro mtime hmtime
    rw [Option.some.injEq] at hmtime
    omega
  apply codes_sorted backup
  apply List.IsChain.cons_cons (hages (by decide) (by decide))
  apply List.IsChain.cons_cons (hages (by decide) (by decide))
  apply List.IsChain.singleton

end Watch
end NetmonPlugins

import NetmonPlugins.Common.Thresholds
import NetmonPlugins.Plugins.FileAge.Impl
import NetmonPlugins.Plugins.FileCount.Impl
import NetmonPlugins.Plugins.FileSize.Impl
import NetmonPlugins.Plugins.Procs.Impl

/-!
This module determines when the thresholds that the checks of whole numbers publish are those that
they judge by.
-/

namespace NetmonPlugins

open Published

/-- One run of a check that judges a whole number. -/
inductive CountCheck where
  | fileSize (fileSystem : FileSizePlugin.FileSystem) (config : FileSizePlugin.Config)
  | fileAge (fileSystem : FileAgePlugin.FileSystem) (now : Int) (config : FileAgePlugin.Config)
  | fileCount (fileSystem : FileCountPlugin.FileSystem) (config : FileCountPlugin.Config)
  | procs (procDir : Option (List ProcsPlugin.Entry)) (config : ProcsPlugin.Config)

namespace CountCheck

def result : CountCheck → PluginResult
  | fileSize fileSystem config => FileSizePlugin.check fileSystem config
  | fileAge fileSystem now config => FileAgePlugin.check fileSystem now config
  | fileCount fileSystem config => FileCountPlugin.check fileSystem config
  | procs procDir config => ProcsPlugin.check procDir config

/-- What the check measures, if it comes to judge it. -/
def reading : CountCheck → Option Int
  | fileSize fileSystem config =>
    let size := FileSizePlugin.getFileSize fileSystem config.filePath
    if config.filePath ≠ [] ∧ fileSystem.access config.filePath = true ∧ size ≥ 0 then
      some size
    else
      none
  | fileAge fileSystem now config =>
    let age := FileAgePlugin.getFileAge fileSystem now config.filePath
    if config.filePath ≠ [] ∧ fileSystem.access config.filePath = true ∧ age ≥ 0 then
      some age
    else
      none
  | fileCount fileSystem config =>
    let count := FileCountPlugin.countFiles fileSystem config.options FileCountPlugin.pathMax
      config.directory
    if config.directory ≠ [] ∧ FileCountPlugin.isDirectory fileSystem config.directory = true
        ∧ count ≥ 0 then
      some count
    else
      none
  | procs procDir config => some (ProcsPlugin.countProcesses procDir config.processName)

def ifSet (comparison : Comparison) (least bound : Int) : List Threshold :=
  if bound ≥ least then [⟨comparison, bound⟩] else []

/-- The thresholds that are set, in the order in which the check tries them. -/
def configured : CountCheck → Thresholds
  | fileSize _ config =>
    { warning := ifSet .reaches 0 config.warningSize
      critical := ifSet .reaches 0 config.criticalSize }
  | fileAge _ _ config =>
    { warning := ifSet .reaches 0 config.warningAge
      critical := ifSet .reaches 0 config.criticalAge }
  | fileCount _ config =>
    { warning := ifSet .reaches 0 config.warningCount
      critical := ifSet .reaches 0 config.criticalCount }
  | procs _ config =>
    { warning := ifSet .below 1 config.warningMin ++ ifSet .above 1 config.warningMax
      critical := ifSet .below 1 config.criticalMin ++ ifSet .above 1 config.criticalMax }

def comparisons : CountCheck → List Comparison
  | procs _ _ => [.below, .above]
  | _ => [.reaches]

/-- The printed value and thresholds lead to the code, and the thresholds are those that are set. -/
def Reproduces (check : CountCheck) : Prop :=
  ∃ comparison ∈ check.comparisons, ∃ value,
    Published.value check.result.perfdata = some value
      ∧ (thresholds comparison check.result.perfdata).judge value = check.result.code
      ∧ thresholds comparison check.result.perfdata = check.configured

def PublishesAll : CountCheck → Prop
  | fileSize _ config => config.warningSize ≥ 0 ↔ config.criticalSize ≥ 0
  | fileAge _ _ config => config.warningAge ≥ 0 ↔ config.criticalAge ≥ 0
  | fileCount _ config => config.warningCount ≥ 0 ↔ config.criticalCount ≥ 0
  | procs _ config =>
    config.warningMax ≤ 0 ∧ config.criticalMax ≤ 0
      ∧ (config.warningMin > 0 ↔ config.criticalMin > 0)

theorem any_ifSet (comparison : Comparison) (least bound value : Int)
    : ((ifSet comparison least bound).any (·.isCrossed value) = true)
        =
      (bound ≥ least ∧ (Threshold.mk comparison bound).isCrossed value = true) := by
  unfold ifSet
  split
  . next h => simp [h]
  . next h => simp [h]

theorem any_ifSet_reaches (bound value : Int)
    : ((ifSet .reaches 0 bound).any (·.isCrossed value) = true) = (bound ≥ 0 ∧ value ≥ bound) := by
  rw [any_ifSet]
  simp [Threshold.isCrossed]

structure IsFileCheck (check : CountCheck) (value warning critical : Int) : Prop where
  perfdata : ∃ label uom, check.result.perfdata
    = item label value uom (if warning ≥ 0 then [warning, critical] else [])
      ∧ (∀ b ∈ label, b ≠ 59 ∧ b ≠ 61) ∧ ∀ b ∈ uom, b ≠ 59 ∧ isDigit b = false
  code : check.result.code = check.configured.judge value
  configured : check.configured
    = { warning := ifSet .reaches 0 warning, critical := ifSet .reaches 0 critical }
  comparisons : check.comparisons = [.reaches]

theorem IsFileCheck.reproduces_iff {check : CountCheck} {value warning critical : Int}
    (h : check.IsFileCheck value warning critical)
    : check.Reproduces ↔ (warning ≥ 0 ↔ critical ≥ 0) := by
  obtain ⟨label, uom, hperfdata, hlabel, huom⟩ := h.perfdata
  have hvalue := value_item label value uom (if warning ≥ 0 then [warning, critical] else [])
    hlabel huom
  have hthresholds := thresholds_item .reaches label value uom
    (if warning ≥ 0 then [warning, critical] else []) (fun h => (hlabel _ h).1 rfl)
    (fun h => (huom _ h).1 rfl)
  unfold Reproduces
  rw [h.comparisons, h.code, h.configured, hperfdata, hvalue]
  simp only [List.mem_singleton, exists_eq_left, Option.some.injEq, exists_eq_left']
  rw [hthresholds]
  by_cases hwarning : warning ≥ 0
  . by_cases hcritical : critical ≥ 0
    . simp [ifSet, hwarning, hcritical]
    . simp [ifSet, hwarning, hcritical]
  . by_cases hcritical : critical ≥ 0
    . simp [ifSet, hwarning, hcritical]
    . simp [ifSet, hwarning, hcritical]

theorem item_of_pair (label uom : Bytes) (value warning critical : Int)
    : label ++ str "=" ++ intDec value ++ uom
          ++ (if warning ≥ 0 then str ";" ++ intDec warning ++ str ";" ++ intDec critical else [])
        =
      item label value uom (if warning ≥ 0 then [warning, critical] else []) := by
  unfold item
  split
  . simp
  . simp

theorem ladder_eq_judge (warning critical value : Int) (exceedsCritical exceedsWarning : Bytes)
    : (if critical ≥ 0 ∧ value ≥ critical then
          (ExitCode.critical, exceedsCritical)
        else if warning ≥ 0 ∧ value ≥ warning then
          (.warning, exceedsWarning)
        else
          (.ok, [])).1
        =
      Thresholds.judge
        { warning := ifSet .reaches 0 warning, critical := ifSet .reaches 0 critical } value := by
  unfold Thresholds.judge
  simp only [any_ifSet_reaches]
  split
  . rfl
  . split
    . rfl
    . rfl

theorem isFileCheck_fileSize {fileSystem : FileSizePlugin.FileSystem}
    {config : FileSizePlugin.Config} {value : Int}
    (h : (fileSize fileSystem config).reading = some value)
    : (fileSize fileSystem config).IsFileCheck value config.warningSize config.criticalSize := by
  unfold reading at h
  dsimp only at h
  split at h
  . next hreached =>
    injection h with h
    subst h
    have hresult : (fileSize fileSystem config).result = FileSizePlugin.check fileSystem config :=
      rfl
    unfold FileSizePlugin.check at hresult
    rw [if_neg hreached.1, if_neg (by simp [hreached.2.1])] at hresult
    dsimp only at hresult
    rw [if_neg (by omega)] at hresult
    constructor
    . refine ⟨str "size", str "B", ?_, by simp [str], by simp [str, isDigit]⟩
      rw [hresult, ← item_of_pair]
      rfl
    . rw [hresult]
      apply ladder_eq_judge
    . rfl
    . rfl
  . contradiction

theorem isFileCheck_fileAge {fileSystem : FileAgePlugin.FileSystem} {now : Int}
    {config : FileAgePlugin.Config} {value : Int}
    (h : (fileAge fileSystem now config).reading = some value)
    : (fileAge fileSystem now config).IsFileCheck value config.warningAge config.criticalAge := by
  unfold reading at h
  dsimp only at h
  split at h
  . next hreached =>
    injection h with h
    subst h
    have hresult : (fileAge fileSystem now config).result
        = FileAgePlugin.check fileSystem now config := rfl
    unfold FileAgePlugin.check at hresult
    rw [if_neg hreached.1, if_neg (by simp [hreached.2.1])] at hresult
    dsimp only at hresult
    rw [if_neg (by omega)] at hresult
    constructor
    . refine ⟨str "age", str "s", ?_, by simp [str], by simp [str, isDigit]⟩
      rw [hresult, ← item_of_pair]
      rfl
    . rw [hresult]
      apply ladder_eq_judge
    . rfl
    . rfl
  . contradiction

theorem isFileCheck_fileCount {fileSystem : FileCountPlugin.FileSystem}
    {config : FileCountPlugin.Config} {value : Int}
    (h : (fileCount fileSystem config).reading = some value)
    : (fileCount fileSystem config).IsFileCheck value config.warningCount config.criticalCount := by
  unfold reading at h
  dsimp only at h
  split at h
  . next hreached =>
    injection h with h
    subst h
    have hresult : (fileCount fileSystem config).result = FileCountPlugin.check fileSystem config :=
      rfl
    unfold FileCountPlugin.check at hresult
    rw [if_neg hreached.1, if_neg (by simp [hreached.2.1])] at hresult
    dsimp only at hresult
    rw [if_neg (by omega)] at hresult
    constructor
    . refine ⟨str "count", [], ?_, by simp [str], by simp⟩
      rw [hresult, ← item_of_pair, List.append_nil]
      rfl
    . rw [hresult]
      apply ladder_eq_judge
    . rfl
    . rfl
  . contradiction

def positive (bound : Int) : Int := if bound > 0 then bound else 0

def procsBounds (config : ProcsPlugin.Config) : List Int :=
  if config.warningMin > 0 ∨ config.warningMax > 0 then
    [positive config.warningMin, positive config.criticalMin]
      ++ (if config.warningMax > 0 ∨ config.criticalMax > 0 then
            [positive config.warningMax, positive config.criticalMax]
          else
            [])
  else
    []

theorem procs_perfdata (procDir : Option (List ProcsPlugin.Entry)) (config : ProcsPlugin.Config)
    : (procs procDir config).result.perfdata
        =
      item (str "procs") (ProcsPlugin.countProcesses procDir config.processName) []
        (procsBounds config) := by
  show ProcsPlugin.perfdata config _ = _
  unfold ProcsPlugin.perfdata item procsBounds ProcsPlugin.orZero positive
  have hlabel : str "procs=" = str "procs" ++ str "=" := by decide
  rw [hlabel, List.append_nil]
  congr 1
  by_cases hminimums : config.warningMin > 0 ∨ config.warningMax > 0
  . rw [if_pos hminimums, if_pos hminimums]
    by_cases hmaximums : config.warningMax > 0 ∨ config.criticalMax > 0
    . rw [if_pos hmaximums, if_pos hmaximums]
      simp
    . rw [if_neg hmaximums, if_neg hmaximums]
      simp
  . rw [if_neg hminimums, if_neg hminimums]
    rfl

theorem any_ifSet_below (bound value : Int)
    : ((ifSet .below 1 bound).any (·.isCrossed value) = true) = (bound > 0 ∧ value < bound) := by
  have hset : bound ≥ 1 ↔ bound > 0 := by omega
  rw [any_ifSet, hset]
  simp [Threshold.isCrossed]

theorem any_ifSet_above (bound value : Int)
    : ((ifSet .above 1 bound).any (·.isCrossed value) = true) = (bound > 0 ∧ value > bound) := by
  have hset : bound ≥ 1 ↔ bound > 0 := by omega
  rw [any_ifSet, hset]
  simp [Threshold.isCrossed]

theorem procs_judge (procDir : Option (List ProcsPlugin.Entry)) (config : ProcsPlugin.Config)
    : (procs procDir config).result.code
        =
      (procs procDir config).configured.judge
        (ProcsPlugin.countProcesses procDir config.processName) := by
  show (ProcsPlugin.checkThresholds config _).1 = _
  unfold ProcsPlugin.checkThresholds Thresholds.judge configured
  simp only [List.any_append, Bool.or_eq_true, any_ifSet_below, any_ifSet_above]
  grind

theorem ifSet_of_pos (comparison : Comparison) {bound : Int} (h : bound > 0)
    : ifSet comparison 1 bound = [⟨comparison, bound⟩] := by
  unfold ifSet
  rw [if_pos (by omega)]

theorem ifSet_of_not_pos (comparison : Comparison) {bound : Int} (h : ¬ bound > 0)
    : ifSet comparison 1 bound = [] := by
  unfold ifSet
  rw [if_neg (by omega)]

/-- A field has room for one bound, and a bound that is not set is printed as zero. -/
theorem field_eq_configured_iff (comparison : Comparison) (min max : Int)
    : [⟨comparison, positive min⟩] = ifSet .below 1 min ++ ifSet .above 1 max
        ↔
      comparison = .below ∧ min > 0 ∧ ¬ max > 0 := by
  unfold positive
  by_cases hmin : min > 0
  . by_cases hmax : max > 0
    . simp [ifSet_of_pos, hmin, hmax]
    . simp [ifSet_of_pos, ifSet_of_not_pos, hmin, hmax]
  . by_cases hmax : max > 0
    . simp only [ifSet_of_not_pos _ hmin, ifSet_of_pos _ hmax, hmin, if_false, List.nil_append,
        List.cons.injEq, Threshold.mk.injEq]
      omega
    . simp [ifSet_of_not_pos, hmin, hmax]

theorem nothing_eq_configured_iff (min max : Int)
    : [] = ifSet .below 1 min ++ ifSet .above 1 max ↔ ¬ min > 0 ∧ ¬ max > 0 := by
  by_cases hmin : min > 0
  . simp [ifSet_of_pos, hmin]
  . by_cases hmax : max > 0
    . simp [ifSet_of_pos, hmax]
    . simp [ifSet_of_not_pos, hmin, hmax]

theorem procs_thresholds_iff (procDir : Option (List ProcsPlugin.Entry))
    (config : ProcsPlugin.Config) (comparison : Comparison)
    : thresholds comparison (procs procDir config).result.perfdata
          = (procs procDir config).configured
        ↔
      (procs procDir config).PublishesAll ∧ (config.warningMin > 0 → comparison = .below) := by
  rw [procs_perfdata, thresholds_item _ _ _ _ _ (by decide) (by simp)]
  unfold procsBounds configured PublishesAll
  dsimp only
  rw [Thresholds.mk.injEq]
  by_cases hprinted : config.warningMin > 0 ∨ config.warningMax > 0
  . rw [if_pos hprinted]
    simp only [List.cons_append, List.getElem?_cons_zero, List.getElem?_cons_succ, Option.map_some,
      Option.toList_some]
    rw [field_eq_configured_iff, field_eq_configured_iff]
    grind
  . rw [if_neg hprinted]
    simp only [List.getElem?_nil, Option.map_none, Option.toList_none]
    rw [nothing_eq_configured_iff, nothing_eq_configured_iff]
    grind

theorem procs_reproduces_iff (procDir : Option (List ProcsPlugin.Entry))
    (config : ProcsPlugin.Config)
    : (procs procDir config).Reproduces ↔ (procs procDir config).PublishesAll := by
  constructor
  . rintro ⟨comparison, _, value, _, _, hthresholds⟩
    exact ((procs_thresholds_iff _ _ _).mp hthresholds).1
  . intro h
    have hthresholds := (procs_thresholds_iff procDir config .below).mpr ⟨h, fun _ => rfl⟩
    refine ⟨.below, List.mem_cons_self, ProcsPlugin.countProcesses procDir config.processName, ?_, ?_,
      hthresholds⟩
    . rw [procs_perfdata]
      apply value_item
      . simp [str]
      . simp
    . rw [hthresholds, procs_judge]

/--
The thresholds that a check publishes are those that it judges by only where both are set or none
is, and for `check_procs` only where these are minimums.
-/
theorem reproduces_iff_publishesAll (check : CountCheck) (value : Int)
    (h : check.reading = some value)
    : check.Reproduces ↔ check.PublishesAll := by
  cases check with
  | fileSize fileSystem config => exact (isFileCheck_fileSize h).reproduces_iff
  | fileAge fileSystem now config => exact (isFileCheck_fileAge h).reproduces_iff
  | fileCount fileSystem config => exact (isFileCheck_fileCount h).reproduces_iff
  | procs procDir config => exact procs_reproduces_iff procDir config

def oneFile : FileSizePlugin.FileSystem where
  access path := path = str "/a"
  st_size path := if path = str "/a" then some 500 else none

theorem reproduces_of_both
    : (fileSize oneFile
        { filePath := str "/a", warningSize := 100, criticalSize := 1000 }).Reproduces :=
  (reproduces_iff_publishesAll _ 500 (by decide)).mpr (by unfold PublishesAll; decide)

def recentFile : FileAgePlugin.FileSystem where
  access _ := true
  st_mtime _ := some 990

def emptyDirectory : FileCountPlugin.FileSystem where
  s_isdir _ := some true
  opendir _ := some [str ".", str ".."]

/-- The critical threshold alone is not printed, the warning alone brings one that is not set, and
maximums stand where no threshold is read. -/
theorem not_reproduces
    : ((fileSize oneFile { filePath := str "/a", criticalSize := 100 }).result.code = .critical
          ∧
        (fileSize oneFile { filePath := str "/a", criticalSize := 100 }).result.perfdata
          = str "size=500B"
          ∧
        ¬ (fileSize oneFile { filePath := str "/a", criticalSize := 100 }).Reproduces)
        ∧
      ((fileAge recentFile 1000 { filePath := str "/a", warningAge := 60 }).result.code = .ok
          ∧
        (fileAge recentFile 1000 { filePath := str "/a", warningAge := 60 }).result.perfdata
          = str "age=10s;60;-1"
          ∧
        ¬ (fileAge recentFile 1000 { filePath := str "/a", warningAge := 60 }).Reproduces)
        ∧
      ((fileCount emptyDirectory { directory := str "/a", criticalCount := 0 }).result.code
            = .critical
          ∧
        (fileCount emptyDirectory { directory := str "/a", criticalCount := 0 }).result.perfdata
          = str "count=0"
          ∧
        ¬ (fileCount emptyDirectory { directory := str "/a", criticalCount := 0 }).Reproduces)
        ∧
      ((procs none { warningMax := 100, criticalMax := 200 }).result.code = .ok
          ∧
        (procs none { warningMax := 100, criticalMax := 200 }).result.perfdata
          = str "procs=0;0;0;100;200"
          ∧
        ¬ (procs none { warningMax := 100, criticalMax := 200 }).Reproduces) := by
  refine ⟨⟨by decide, by decide, ?_⟩, ⟨by decide, by decide, ?_⟩, ⟨by decide, by decide, ?_⟩,
    ⟨by decide, by decide, ?_⟩⟩
  . have hsize : (fileSize oneFile { filePath := str "/a", criticalSize := 100 }).reading
        = some 500 := by decide
    rw [(isFileCheck_fileSize hsize).reproduces_iff]
    decide
  . have hage : (fileAge recentFile 1000 { filePath := str "/a", warningAge := 60 }).reading
        = some 10 := by decide
    rw [(isFileCheck_fileAge hage).reproduces_iff]
    decide
  . have hcount : (fileCount emptyDirectory
        { directory := str "/a", criticalCount := 0 }).reading = some 0 := by decide
    rw [(isFileCheck_fileCount hcount).reproduces_iff]
    decide
  . rw [procs_reproduces_iff]
    unfold PublishesAll
    decide

end CountCheck
end NetmonPlugins

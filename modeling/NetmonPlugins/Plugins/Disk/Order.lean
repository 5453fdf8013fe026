import NetmonPlugins.Plugins.Disk.Impl
import Mathlib.Data.List.Perm.Basic

/-!
This module determines the overall code of `check_disk` from the codes of the single paths, and when
it does not depend on their order.
-/

namespace NetmonPlugins
namespace DiskPlugin

def pathCode (statvfs : FileSystem) (config : Config) (path : Bytes) : ExitCode :=
  match getDiskInfo statvfs path with
  | .ok info =>
    let (isCritical, isWarning) := checkThresholds config info
    if isCritical then .critical else if isWarning then .warning else .ok
  | .error _ => .unknown

def overall (code next : ExitCode) : ExitCode :=
  if next = .critical then .critical else if code = .ok then next else code

structure Severity where
  rank : ExitCode → Nat
  ok_lt : ∀ code, code ≠ .ok → rank .ok < rank code
  lt_critical : ∀ code, code ≠ .critical → rank code < rank .critical

def Severity.IsWorst (severity : Severity) (codes : List ExitCode) (code : ExitCode) : Prop :=
  code ∈ codes ∧ ∀ other ∈ codes, severity.rank other ≤ severity.rank code

theorem foldl_overall_critical (codes : List ExitCode)
    : codes.foldl overall .critical = .critical := by
  induction codes with
  | nil => rfl
  | cons next codes ih =>
    have hnext : overall .critical next = .critical := by
      unfold overall
      split
      . rfl
      . rfl
    rw [List.foldl_cons, hnext]
    apply ih

theorem foldl_overall_of_mem (codes : List ExitCode) (code : ExitCode)
    (h : .critical ∈ codes)
    : codes.foldl overall code = .critical := by
  induction codes generalizing code with
  | nil => contradiction
  | cons next codes ih =>
    rw [List.foldl_cons]
    rw [List.mem_cons] at h
    cases h with
    | inl hnext =>
      rw [← hnext]
      apply foldl_overall_critical
    | inr hcodes => apply ih _ hcodes

theorem foldl_overall_of_notMem (codes : List ExitCode) (code : ExitCode)
    (h : .critical ∉ codes) (hcode : code ≠ .ok)
    : codes.foldl overall code = code := by
  induction codes with
  | nil => rfl
  | cons next codes ih =>
    rw [List.mem_cons, not_or] at h
    have hnext : overall code next = code := by
      unfold overall
      rw [if_neg (Ne.symm h.1), if_neg hcode]
    rw [List.foldl_cons, hnext]
    apply ih h.2

theorem foldl_overall_of_uniform (codes : List ExitCode) (code : ExitCode)
    (h : ∀ next ∈ codes, next = .ok ∨ next = code)
    : codes.foldl overall .ok = if code ∈ codes then code else .ok := by
  induction codes with
  | nil => rfl
  | cons next codes ih =>
    have hcodes := ih fun other hother => h other (List.mem_cons_of_mem _ hother)
    have hnext : overall .ok next = next := by
      unfold overall
      split
      . next hcritical => exact hcritical.symm
      . rfl
    rw [List.foldl_cons, hnext]
    by_cases hok : next = .ok
    . rw [hok, hcodes]
      by_cases hcode : code = .ok
      . simp [hcode]
      . have hmem : code ∈ .ok :: codes ↔ code ∈ codes := by simp [hcode]
        simp only [hmem]
    . have heq : next = code := (h next List.mem_cons_self).resolve_left hok
      rw [heq] at hok ⊢
      rw [if_pos List.mem_cons_self]
      by_cases hcritical : code = .critical
      . rw [hcritical]
        apply foldl_overall_critical
      . apply foldl_overall_of_notMem _ _ _ hok
        intro hmem
        cases h .critical (List.mem_cons_of_mem _ hmem) with
        | inl hfalse => contradiction
        | inr hfalse => exact hcritical hfalse.symm

def Settled (codes : List ExitCode) : Prop :=
  .critical ∈ codes ∨ ¬ (.warning ∈ codes ∧ .unknown ∈ codes)

theorem uniform_of_settled {codes : List ExitCode} (h : Settled codes)
    (hcritical : .critical ∉ codes)
    : ∃ code, ∀ next ∈ codes, next = .ok ∨ next = code := by
  have hmixed := h.resolve_left hcritical
  by_cases hwarning : .warning ∈ codes
  . exists .warning
    intro next hnext
    cases next with
    | ok => simp
    | warning => simp
    | critical => contradiction
    | unknown => exact absurd ⟨hwarning, hnext⟩ hmixed
  . exists .unknown
    intro next hnext
    cases next with
    | ok => simp
    | warning => contradiction
    | critical => contradiction
    | unknown => simp

theorem foldl_overall_perm {codes codes' : List ExitCode} (h : Settled codes)
    (hperm : codes'.Perm codes)
    : codes'.foldl overall .ok = codes.foldl overall .ok := by
  by_cases hcritical : .critical ∈ codes
  . rw [foldl_overall_of_mem _ _ hcritical]
    apply foldl_overall_of_mem
    rw [hperm.mem_iff]
    exact hcritical
  . obtain ⟨code, huniform⟩ := uniform_of_settled h hcritical
    rw [foldl_overall_of_uniform codes code huniform]
    rw [foldl_overall_of_uniform codes' code]
    . simp only [hperm.mem_iff]
    . intro next hnext
      rw [hperm.mem_iff] at hnext
      apply huniform next hnext

theorem Severity.ok_le (severity : Severity) (code : ExitCode)
    : severity.rank .ok ≤ severity.rank code := by
  by_cases hcode : code = .ok
  . rw [hcode]
  . apply Nat.le_of_lt
    apply severity.ok_lt code hcode

theorem Severity.le_critical (severity : Severity) (code : ExitCode)
    : severity.rank code ≤ severity.rank .critical := by
  by_cases hcode : code = .critical
  . rw [hcode]
  . apply Nat.le_of_lt
    apply severity.lt_critical code hcode

theorem isWorst_foldl_overall (severity : Severity) {codes : List ExitCode} (h : Settled codes)
    (hne : codes ≠ [])
    : severity.IsWorst codes (codes.foldl overall .ok) := by
  by_cases hcritical : .critical ∈ codes
  . rw [foldl_overall_of_mem _ _ hcritical]
    constructor
    . exact hcritical
    . intro other _
      apply severity.le_critical
  . obtain ⟨code, huniform⟩ := uniform_of_settled h hcritical
    rw [foldl_overall_of_uniform codes code huniform]
    by_cases hcode : code ∈ codes
    . rw [if_pos hcode]
      constructor
      . exact hcode
      . intro other hother
        cases huniform other hother with
        | inl hok =>
          rw [hok]
          apply severity.ok_le
        | inr heq => rw [heq]
    . have hok : ∀ next ∈ codes, next = .ok := by
        intro next hnext
        cases huniform next hnext with
        | inl hok => exact hok
        | inr heq => exact absurd (heq ▸ hnext) hcode
      rw [if_neg hcode]
      constructor
      . obtain ⟨next, hnext⟩ := List.exists_mem_of_ne_nil codes hne
        rw [← hok next hnext]
        exact hnext
      . intro other hother
        rw [hok other hother]

section

variable (statvfs : FileSystem) (config : Config)

theorem add_overallCode (report : Report) (path : Bytes)
    : (Report.add statvfs config report path).overallCode
        =
      overall report.overallCode (pathCode statvfs config path) := by
  unfold Report.add pathCode overall
  cases getDiskInfo statvfs path with
  | error e => rfl
  | ok info =>
    dsimp only
    by_cases hcritical : (checkThresholds config info).1 = true
    . simp [hcritical]
    . by_cases hwarning : (checkThresholds config info).2 = true
      . simp [hcritical, hwarning]
      . simp [hcritical, hwarning]

theorem foldl_add_overallCode (paths : List Bytes) (report : Report)
    : (paths.foldl (Report.add statvfs config) report).overallCode
        =
      (paths.map (pathCode statvfs config)).foldl overall report.overallCode := by
  induction paths generalizing report with
  | nil => rfl
  | cons path paths ih =>
    rw [List.foldl_cons, ih, add_overallCode]
    rfl

theorem check_code
    : (check statvfs config).code
        =
      (config.checkedPaths.map (pathCode statvfs config)).foldl overall .ok :=
  foldl_add_overallCode statvfs config config.checkedPaths {}

/-- The code of one path is the code of the check of this path alone. -/
theorem check_singleton (path : Bytes)
    : (check statvfs { config with paths := [path] }).code = pathCode statvfs config path := by
  rw [check_code]
  show overall .ok (pathCode statvfs config path) = _
  unfold overall
  split
  . next hcritical => exact hcritical.symm
  . rfl

theorem checkedPaths_perm {paths : List Bytes} (h : paths.Perm config.paths)
    : ({ config with paths := paths } : Config).checkedPaths.Perm config.checkedPaths := by
  unfold Config.checkedPaths
  dsimp only
  by_cases hnil : config.paths = []
  . rw [hnil, List.perm_nil] at h
    rw [h, hnil]
  . have hne : paths ≠ [] := by
      intro hpaths
      rw [hpaths, List.nil_perm] at h
      exact hnil h
    rw [if_neg hnil, if_neg hne]
    exact h

theorem checkedPaths_ne_nil : config.checkedPaths ≠ [] := by
  unfold Config.checkedPaths
  split
  . simp
  . next h => exact h

theorem exists_perm_of_mem {path : Bytes} (hpath : path ∈ config.paths)
    (hcritical : .critical ∉ config.paths.map (pathCode statvfs config))
    (hok : pathCode statvfs config path ≠ .ok)
    : ∃ paths, paths.Perm config.paths
        ∧ (check statvfs { config with paths := paths }).code = pathCode statvfs config path := by
  obtain ⟨before, after, heq⟩ := List.append_of_mem hpath
  have hperm : (path :: (before ++ after)).Perm config.paths := by
    rw [heq]
    apply List.perm_middle.symm
  exists path :: (before ++ after)
  constructor
  . exact hperm
  . rw [check_code]
    show ((path :: (before ++ after)).map (pathCode statvfs config)).foldl overall .ok = _
    rw [← (hperm.map _).mem_iff, List.map_cons, List.mem_cons, not_or] at hcritical
    have hhead : overall .ok (pathCode statvfs config path) = pathCode statvfs config path := by
      unfold overall
      rw [if_neg (Ne.symm hcritical.1), if_pos rfl]
    rw [List.map_cons, List.foldl_cons, hhead]
    apply foldl_overall_of_notMem _ _ hcritical.2 hok

theorem settled_of_perm
    (h : ∀ paths, paths.Perm config.paths
      → (check statvfs { config with paths := paths }).code = (check statvfs config).code)
    : Settled (config.checkedPaths.map (pathCode statvfs config)) := by
  unfold Config.checkedPaths
  by_cases hnil : config.paths = []
  . rw [if_pos hnil]
    right
    intro hmixed
    simp only [List.map_cons, List.map_nil, List.mem_singleton] at hmixed
    rw [← hmixed.1] at hmixed
    exact absurd hmixed.2 (by simp)
  . rw [if_neg hnil]
    by_cases hcritical : .critical ∈ config.paths.map (pathCode statvfs config)
    . left
      exact hcritical
    . right
      intro hmixed
      rw [List.mem_map, List.mem_map] at hmixed
      obtain ⟨⟨path, hpath, hwarning⟩, ⟨path', hpath', hunknown⟩⟩ := hmixed
      have hne : pathCode statvfs config path ≠ .ok := by simp [hwarning]
      have hne' : pathCode statvfs config path' ≠ .ok := by simp [hunknown]
      obtain ⟨paths, hperm, hcode⟩ := exists_perm_of_mem statvfs config hpath hcritical hne
      obtain ⟨paths', hperm', hcode'⟩ := exists_perm_of_mem statvfs config hpath' hcritical hne'
      have hfalse : ExitCode.warning = .unknown := by
        rw [← hwarning, ← hunknown, ← hcode, ← hcode', h paths hperm, h paths' hperm']
      contradiction

end

/--
The overall code is the same in every order of the paths, and then the worst code of a path, if and
only if a path is critical or there are not both a warning and an unreadable path.
-/
theorem code_orderIndependent_iff (severity : Severity) (statvfs : FileSystem) (config : Config)
    : ((∀ paths, paths.Perm config.paths
          → (check statvfs { config with paths := paths }).code = (check statvfs config).code)
          ∧
        severity.IsWorst (config.checkedPaths.map (pathCode statvfs config))
          (check statvfs config).code
          ∧
        (.critical ∈ config.checkedPaths.map (pathCode statvfs config)
          → (check statvfs config).code = .critical))
        ↔
      Settled (config.checkedPaths.map (pathCode statvfs config)) := by
  constructor
  . intro h
    apply settled_of_perm statvfs config h.1
  . intro hsettled
    constructor
    . intro paths hperm
      rw [check_code, check_code]
      apply foldl_overall_perm hsettled
      exact (checkedPaths_perm config hperm).map _
    constructor
    . rw [check_code]
      apply isWorst_foldl_overall severity hsettled
      rw [List.map_eq_nil_iff.ne]
      apply checkedPaths_ne_nil
    . intro hcritical
      rw [check_code]
      apply foldl_overall_of_mem _ _ hcritical

def mostlyFull : FileSystem := fun path =>
  if path = str "/data" ∨ path = str "/" then
    .ok { f_frsize := 1048576, f_blocks := 100, f_bfree := 8, f_bavail := 8 }
  else
    .error (str "No such file or directory")

def unknownAboveWarning : Severity where
  rank
    | .ok => 0
    | .warning => 1
    | .unknown => 2
    | .critical => 3
  ok_lt := by
    intro code
    cases code <;> simp
  lt_critical := by
    intro code
    cases code <;> simp

theorem code_orderIndependent_of_readable
    : unknownAboveWarning.IsWorst
        ([str "/data", str "/"].map (pathCode mostlyFull { paths := [str "/data", str "/"] }))
        (check mostlyFull { paths := [str "/data", str "/"] }).code := by
  apply ((code_orderIndependent_iff unknownAboveWarning mostlyFull
    { paths := [str "/data", str "/"] }).mpr _).2.1
  right
  decide +kernel

theorem code_depends_on_order
    : (check mostlyFull { paths := [str "/data", str "/backup"] }).code = .warning
        ∧
      (check mostlyFull { paths := [str "/backup", str "/data"] }).code = .unknown := by
  decide +kernel

end DiskPlugin
end NetmonPlugins

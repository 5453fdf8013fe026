import NetmonPlugins.Plugins.FileCount.Walk

/-!
This module contains what becomes of a directory that cannot be opened: where the walk has begun, it
is an empty one.
-/

namespace NetmonPlugins
namespace FileCountPlugin

/-- The file system with an empty directory wherever `opendir` fails. -/
def FileSystem.emptied (fileSystem : FileSystem) : FileSystem where
  s_isdir := fileSystem.s_isdir
  opendir path := some ((fileSystem.opendir path).getD [])

section

variable {fileSystem : FileSystem} {options : Options}

theorem counted_emptied (dir : Bytes)
    : counted fileSystem.emptied options dir = counted fileSystem options dir := by
  unfold counted
  cases h : fileSystem.opendir dir with
  | none => simp [FileSystem.emptied, h]
  | some names =>
    simp only [FileSystem.emptied, h]
    rfl

theorem visits_emptied (fds : Nat) (dir : Bytes)
    : visits fileSystem.emptied options fds dir = visits fileSystem options fds dir := by
  induction fds generalizing dir with
  | zero => rfl
  | succ fds ih =>
    unfold visits
    cases h : fileSystem.opendir dir with
    | none => simp [FileSystem.emptied, h]
    | some names =>
      simp only [ih]
      simp only [FileSystem.emptied, h]
      rfl

theorem contributions_emptied (fds : Nat) (dir : Bytes)
    : contributions fileSystem.emptied options fds dir
        =
      contributions fileSystem options fds dir := by
  unfold contributions
  rw [visits_emptied]
  apply List.flatMap_congr
  intro path _
  exact counted_emptied path

end

/-- The result does not tell the directories that cannot be opened from empty ones. -/
theorem check_emptied {fileSystem : FileSystem} {config : Config} {names : List Bytes}
    (h : fileSystem.opendir config.directory = some names)
    : check fileSystem.emptied config = check fileSystem config := by
  have hemptied : fileSystem.emptied.opendir config.directory = some names := by
    simp [FileSystem.emptied, h]
  unfold check pathMax
  rw [countFiles_of_opendir h, countFiles_of_opendir hemptied, contributions_emptied]
  rfl

theorem checkThresholds_ne_unknown (config : Config) (count : Int)
    : (checkThresholds config count).1 ≠ .unknown := by
  unfold checkThresholds
  split
  . simp
  . split <;> simp

theorem code_check_eq_unknown_iff {fileSystem : FileSystem} {config : Config}
    (hdirectory : config.directory ≠ [])
    (hexists : isDirectory fileSystem config.directory = true)
    : (check fileSystem config).code = .unknown
        ↔
      fileSystem.opendir config.directory = none := by
  rw [← countFiles_neg_iff fileSystem config.options (pathMax - 1)]
  show _ ↔ countFiles fileSystem config.options pathMax config.directory < 0
  unfold check
  rw [if_neg hdirectory, if_neg (by simp [hexists])]
  by_cases hcount : countFiles fileSystem config.options pathMax config.directory < 0
  . dsimp only
    rw [if_pos hcount]
    exact iff_of_true rfl hcount
  . dsimp only
    rw [if_neg hcount]
    exact iff_of_false (checkThresholds_ne_unknown _ _) hcount

/-- A directory that cannot be opened is reported if and only if it is the outermost one. -/
theorem unreadable_reported_iff {fileSystem : FileSystem} {config : Config} {path : Bytes}
    (hdirectory : config.directory ≠ [])
    (hexists : isDirectory fileSystem config.directory = true)
    (hreached : Reached fileSystem config.options config.directory path)
    (hunreadable : fileSystem.opendir path = none)
    : (check fileSystem config).code = .unknown ↔ path = config.directory := by
  rw [code_check_eq_unknown_iff hdirectory hexists]
  constructor
  . intro h
    rcases hreached.eq_top_or_opendir with heq | ⟨names, hnames⟩
    . exact heq
    . rw [h] at hnames
      contradiction
  . rintro rfl
    exact hunreadable

/-- In `/srv` there are a file and a directory that cannot be opened. -/
def locked : FileSystem where
  s_isdir path :=
    if path = str "/srv" ∨ path = str "/srv/locked" then some true
    else if path = str "/srv/a" then some false
    else none
  opendir path :=
    if path = str "/srv" then some [str ".", str "..", str "a", str "locked"] else none

theorem reached_locked
    : Reached locked { pat := [], recursive := true, countDirs := false } (str "/srv")
        (str "/srv/locked") :=
  .entry (str "/srv") (str "locked") [str ".", str "..", str "a", str "locked"] .top (by decide)
    (by decide) (by decide)

theorem unreadable_not_reported
    : Reached locked { pat := [], recursive := true, countDirs := false } (str "/srv")
        (str "/srv/locked")
        ∧
      locked.opendir (str "/srv/locked") = none
        ∧
      check locked { directory := str "/srv", recursive := true }
          =
        { code := .ok
          message := str "File count: /srv contains 1 file"
          perfdata := str "count=1" } :=
  ⟨reached_locked, by decide, by decide +kernel⟩

theorem unreadable_reported_iff_locked
    : (check locked { directory := str "/srv", recursive := true }).code = .unknown
        ↔
      str "/srv/locked" = str "/srv" :=
  unreadable_reported_iff (by decide) (by decide) reached_locked (by decide)

end FileCountPlugin
end NetmonPlugins

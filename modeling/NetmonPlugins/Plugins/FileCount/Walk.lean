import NetmonPlugins.Plugins.FileCount.Impl
import Mathlib.Algebra.BigOperators.Ring.Finset
import Mathlib.Data.List.Nodup

/-!
This module contains the walk of `check_file_count`: the paths that the recursion is called with and
the entries that count, of which the count is the number.
-/

namespace NetmonPlugins
namespace FileCountPlugin

def fullPath (dir name : Bytes) : Bytes := dir ++ str "/" ++ name

theorem fullPath_eq (dir name : Bytes) : fullPath dir name = dir ++ 47 :: name := by
  have : str "/" = [47] := by decide
  simp [fullPath, this]

theorem length_fullPath (dir name : Bytes)
    : (fullPath dir name).length = dir.length + name.length + 1 := by
  have : (str "/").length = 1 := by decide
  simp only [fullPath, List.length_append, this]
  omega

def isDot (name : Bytes) : Bool := name = str "." ∨ name = str ".."

def enters (fileSystem : FileSystem) (options : Options) (dir name : Bytes) : Bool :=
  !isDot name && isDirectory fileSystem (fullPath dir name) && options.recursive

def counts (fileSystem : FileSystem) (options : Options) (dir name : Bytes) : Bool :=
  !isDot name
    && (!isDirectory fileSystem (fullPath dir name) || options.countDirs)
    && matchesPattern name options.pat

/-- The paths that `countFiles` is called with while descriptors are left, the outermost first. -/
def visits (fileSystem : FileSystem) (options : Options) : (fds : Nat) → (dir : Bytes) → List Bytes
  | 0, _ => []
  | fds + 1, dir =>
    dir :: match fileSystem.opendir dir with
      | none => []
      | some names =>
        (names.filter (enters fileSystem options dir)).flatMap fun name =>
          visits fileSystem options fds (fullPath dir name)

def counted (fileSystem : FileSystem) (options : Options) (dir : Bytes) : List (Bytes × Bytes) :=
  match fileSystem.opendir dir with
  | none => []
  | some names => (names.filter (counts fileSystem options dir)).map fun name => (dir, name)

/-- The entries that count during a walk, as the directory and the name. -/
def contributions (fileSystem : FileSystem) (options : Options) (fds : Nat) (dir : Bytes)
    : List (Bytes × Bytes) :=
  (visits fileSystem options fds dir).flatMap (counted fileSystem options)

section

variable {fileSystem : FileSystem} {options : Options}

theorem length_contributions_of_opendir {fds : Nat} {dir : Bytes} {names : List Bytes}
    (h : fileSystem.opendir dir = some names)
    : (contributions fileSystem options (fds + 1) dir).length
        =
      (names.filter (counts fileSystem options dir)).length
        + ((names.filter (enters fileSystem options dir)).map fun name =>
            (contributions fileSystem options fds (fullPath dir name)).length).sum := by
  unfold contributions
  rw [visits, List.flatMap_cons, List.length_append, h]
  congr 1
  . rw [counted, h, List.length_map]
  . rw [List.flatMap_assoc, List.length_flatMap]

def added (subCount : Int) : Int := if subCount ≥ 0 then subCount else 0

theorem countEntries_cons (sub : Bytes → Int) (dir : Bytes) (count : Int) (name : Bytes)
    (names : List Bytes)
    : countEntries fileSystem options sub dir count (name :: names)
        =
      countEntries fileSystem options sub dir
        (count + (if counts fileSystem options dir name then 1 else 0)
          + (if enters fileSystem options dir name then added (sub (fullPath dir name)) else 0))
        names := by
  rw [countEntries]
  by_cases hdot : name = str "." ∨ name = str ".."
  . simp [counts, enters, isDot, hdot]
  . have hisDot : isDot name = false := by simpa [isDot] using hdot
    rw [if_neg hdot]
    dsimp only
    congr 1
    unfold counts enters added
    rw [hisDot, ← fullPath]
    cases isDirectory fileSystem (fullPath dir name) <;> cases options.recursive <;>
      cases options.countDirs <;> cases matchesPattern name options.pat <;> simp <;> split <;> omega

theorem countEntries_eq_add (sub : Bytes → Int) (dir : Bytes) (count : Int) (names : List Bytes)
    : countEntries fileSystem options sub dir count names
        =
      count + (names.filter (counts fileSystem options dir)).length
        + ((names.filter (enters fileSystem options dir)).map fun name =>
            added (sub (fullPath dir name))).sum := by
  induction names generalizing count with
  | nil => simp [countEntries]
  | cons name names ih =>
    rw [countEntries_cons, ih, List.filter_cons, List.filter_cons]
    split <;> split <;> simp <;> omega

theorem added_natCast (n : Nat) : added n = n := if_pos (Int.natCast_nonneg n)

theorem countFiles_succ {fds : Nat} {dir : Bytes} {names : List Bytes}
    (hsub : ∀ path, added (countFiles fileSystem options fds path)
        = (contributions fileSystem options fds path).length)
    (h : fileSystem.opendir dir = some names)
    : countFiles fileSystem options (fds + 1) dir
        =
      (contributions fileSystem options (fds + 1) dir).length := by
  rw [countFiles, h]
  dsimp only
  rw [countEntries_eq_add, length_contributions_of_opendir h]
  simp only [hsub]
  rw [zero_add, Nat.cast_add, Nat.cast_list_sum, List.map_map]
  rfl

/-- A call that fails adds nothing, and nothing has been counted there. -/
theorem added_countFiles (fds : Nat) (dir : Bytes)
    : added (countFiles fileSystem options fds dir)
        =
      (contributions fileSystem options fds dir).length := by
  induction fds generalizing dir with
  | zero => rfl
  | succ fds ih =>
    cases h : fileSystem.opendir dir with
    | none => simp [added, countFiles, contributions, visits, counted, h]
    | some names => rw [countFiles_succ ih h, added_natCast]

theorem countFiles_of_opendir {fds : Nat} {dir : Bytes} {names : List Bytes}
    (h : fileSystem.opendir dir = some names)
    : countFiles fileSystem options (fds + 1) dir
        =
      (contributions fileSystem options (fds + 1) dir).length :=
  countFiles_succ (added_countFiles fds) h

theorem countFiles_neg_iff (fileSystem : FileSystem) (options : Options) (fds : Nat) (dir : Bytes)
    : countFiles fileSystem options (fds + 1) dir < 0 ↔ fileSystem.opendir dir = none := by
  cases h : fileSystem.opendir dir with
  | none => simp [countFiles, h]
  | some names => simp [countFiles_of_opendir h]

/-- The paths that `countFiles` is called with, however long they are. -/
inductive Reached (fileSystem : FileSystem) (options : Options) (top : Bytes) : Bytes → Prop where
  | top : Reached fileSystem options top top
  | entry (dir name : Bytes) (names : List Bytes) (hdir : Reached fileSystem options top dir)
      (hnames : fileSystem.opendir dir = some names) (hmem : name ∈ names)
      (henters : enters fileSystem options dir name = true)
    : Reached fileSystem options top (fullPath dir name)

theorem Reached.eq_top_or_opendir {top path : Bytes} (h : Reached fileSystem options top path)
    : path = top ∨ ∃ names, fileSystem.opendir top = some names := by
  induction h with
  | top => exact .inl rfl
  | entry dir name names hdir hnames hmem henters ih =>
    rcases ih with rfl | hopen
    . exact .inr ⟨names, hnames⟩
    . exact .inr hopen

end

end FileCountPlugin
end NetmonPlugins

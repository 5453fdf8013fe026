import NetmonPlugins.Plugins.FileCount.Walk

/-!
This module determines the count of a directory tree without links: each entry of the tree counts
once or not at all. What lies too deep for the descriptors is not counted.
-/

namespace NetmonPlugins
namespace FileCountPlugin

/-- What is in a directory without links, entry by entry. -/
inductive Contents where
  | nil
  | file (name : Bytes) (rest : Contents)
  | directory (name : Bytes) (below rest : Contents)

namespace Contents

structure Item where
  name : Bytes
  isDir : Bool
  deriving DecidableEq

/-- The entries themselves, or all that is below them too. -/
def items (recursive : Bool) : Contents → List Item
  | .nil => []
  | .file name rest => { name := name, isDir := false } :: rest.items recursive
  | .directory name below rest =>
    { name := name, isDir := true }
      :: ((if recursive then below.items recursive else []) ++ rest.items recursive)

/-- The items that lie `level` directories further down, or more. -/
def itemsBelow (recursive : Bool) : (level : Nat) → Contents → List Item
  | 0, contents => contents.items recursive
  | _ + 1, .nil => []
  | level + 1, .file _ rest => rest.itemsBelow recursive (level + 1)
  | level + 1, .directory _ below rest =>
    (if recursive then below.itemsBelow recursive level else [])
      ++ rest.itemsBelow recursive (level + 1)

def names : Contents → List Bytes
  | .nil => []
  | .file name rest => name :: rest.names
  | .directory name _ rest => name :: rest.names

def paths (dir : Bytes) : Contents → List Bytes
  | .nil => []
  | .file name rest => fullPath dir name :: rest.paths dir
  | .directory name below rest =>
    fullPath dir name :: (below.paths (fullPath dir name) ++ rest.paths dir)

/-- `opendir` and `readdir` lead to the entries, and to `.` and `..` among them. -/
def Opens (contents : Contents) (fileSystem : FileSystem) (dir : Bytes) : Prop :=
  ∃ names,
    fileSystem.opendir dir = some names ∧ names.filter (fun name => !isDot name) = contents.names

/-- The file system has the entries in `dir` and can open all directories below it. -/
def Shown (fileSystem : FileSystem) : (dir : Bytes) → Contents → Prop
  | _, .nil => True
  | dir, .file name rest =>
    isDirectory fileSystem (fullPath dir name) = false ∧ rest.Shown fileSystem dir
  | dir, .directory name below rest =>
    isDirectory fileSystem (fullPath dir name) = true
      ∧ below.Opens fileSystem (fullPath dir name)
      ∧ below.Shown fileSystem (fullPath dir name)
      ∧ rest.Shown fileSystem dir

end Contents

def Options.wants (options : Options) (item : Contents.Item) : Bool :=
  (!item.isDir || options.countDirs) && matchesPattern item.name options.pat

section

variable {fileSystem : FileSystem} {options : Options}

theorem Contents.Opens.not_isDot {contents : Contents} {dir : Bytes}
    (h : contents.Opens fileSystem dir)
    : ∀ name ∈ contents.names, isDot name = false := by
  obtain ⟨names, -, hnames⟩ := h
  intro name hname
  rw [← hnames, List.mem_filter] at hname
  simpa using hname.2

theorem Contents.Opens.length_contributions {contents : Contents} {dir : Bytes}
    (h : contents.Opens fileSystem dir) (fds : Nat)
    : (contributions fileSystem options (fds + 1) dir).length
        =
      (contents.names.filter (counts fileSystem options dir)).length
        + ((contents.names.filter (enters fileSystem options dir)).map fun name =>
            (contributions fileSystem options fds (fullPath dir name)).length).sum := by
  obtain ⟨names, hopen, hnames⟩ := h
  rw [length_contributions_of_opendir hopen, ← hnames, List.filter_filter, List.filter_filter]
  congr 2
  . apply List.filter_congr
    intro name _
    cases hdot : isDot name <;> simp [counts, hdot]
  . congr 1
    apply List.filter_congr
    intro name _
    cases hdot : isDot name <;> simp [enters, hdot]

theorem counts_eq_wants {dir name : Bytes} (hdot : isDot name = false) {isDir : Bool}
    (hisDir : isDirectory fileSystem (fullPath dir name) = isDir)
    : counts fileSystem options dir name = options.wants { name := name, isDir := isDir } := by
  simp [counts, Options.wants, hdot, hisDir]

theorem enters_eq_and {dir name : Bytes} (hdot : isDot name = false) {isDir : Bool}
    (hisDir : isDirectory fileSystem (fullPath dir name) = isDir)
    : enters fileSystem options dir name = (isDir && options.recursive) := by
  simp [enters, hdot, hisDir]

/-- The walk counts what is wanted, but for what lies `fds` directories further down. -/
theorem Contents.count_entries {contents : Contents} {fds : Nat} {dir : Bytes}
    (hdot : ∀ name ∈ contents.names, isDot name = false)
    (hshown : contents.Shown fileSystem dir)
    : (contents.names.filter (counts fileSystem options dir)).length
        + ((contents.names.filter (enters fileSystem options dir)).map fun name =>
            (contributions fileSystem options fds (fullPath dir name)).length).sum
        + (contents.itemsBelow options.recursive (fds + 1)).countP options.wants
        =
      (contents.items options.recursive).countP options.wants := by
  induction contents generalizing fds dir with
  | nil => rfl
  | file name rest ih =>
    simp only [Contents.names, List.forall_mem_cons] at hdot
    obtain ⟨hisDir, hrest⟩ := hshown
    have ih := @ih fds dir hdot.2 hrest
    rw [Contents.names, Contents.items, Contents.itemsBelow, List.countP_cons, ← ih,
      List.filter_cons, List.filter_cons, counts_eq_wants hdot.1 hisDir,
      enters_eq_and hdot.1 hisDir]
    split
    . simp
      omega
    . simp
  | directory name below rest ihbelow ihrest =>
    simp only [Contents.names, List.forall_mem_cons] at hdot
    obtain ⟨hisDir, hopens, hbelow, hrest⟩ := hshown
    have ihrest := @ihrest fds dir hdot.2 hrest
    have hsub : (contributions fileSystem options fds (fullPath dir name)).length
          + (below.itemsBelow options.recursive fds).countP options.wants
        =
      (below.items options.recursive).countP options.wants := by
      cases fds with
      | zero =>
        rw [Contents.itemsBelow]
        exact Nat.zero_add _
      | succ fds =>
        rw [hopens.length_contributions]
        exact ihbelow hopens.not_isDot hbelow
    rw [Contents.names, Contents.items, Contents.itemsBelow, List.countP_cons, List.countP_append,
      List.countP_append, ← ihrest, List.filter_cons, List.filter_cons,
      counts_eq_wants hdot.1 hisDir, enters_eq_and hdot.1 hisDir]
    cases hrec : options.recursive with
    | false =>
      split
      . simp
        omega
      . simp
    | true =>
      rw [hrec] at hsub
      rw [if_pos rfl, if_pos rfl, ← hsub]
      split
      . simp
        omega
      . simp
        omega

theorem countFiles_add_of_shown {contents : Contents} {dir : Bytes}
    (hopens : contents.Opens fileSystem dir) (hshown : contents.Shown fileSystem dir) (fds : Nat)
    : countFiles fileSystem options (fds + 1) dir
        + (contents.itemsBelow options.recursive (fds + 1)).countP options.wants
        =
      ((contents.items options.recursive).countP options.wants : Int) := by
  obtain ⟨names, hopen, -⟩ := id hopens
  rw [countFiles_of_opendir hopen, hopens.length_contributions,
    ← contents.count_entries hopens.not_isDot hshown]
  norm_cast

/-- A path grows with each level, so that nothing lies below too many of them. -/
theorem Contents.itemsBelow_eq_nil {contents : Contents} {recursive : Bool} {level : Nat}
    {dir : Bytes} (hpos : 0 < level) (hlevel : pathMax ≤ level + dir.length)
    (hpaths : ∀ path ∈ contents.paths dir, path.length < pathMax)
    : contents.itemsBelow recursive level = [] := by
  obtain ⟨level, rfl⟩ : ∃ k, level = k + 1 := ⟨level - 1, by omega⟩
  induction contents generalizing level dir with
  | nil => rfl
  | file name rest ih =>
    simp only [Contents.paths, List.forall_mem_cons] at hpaths
    rw [Contents.itemsBelow]
    exact ih hpaths.2 level hpos hlevel
  | directory name below rest ihbelow ihrest =>
    simp only [Contents.paths, List.forall_mem_cons, List.forall_mem_append] at hpaths
    have hlength := length_fullPath dir name
    obtain ⟨level, rfl⟩ : ∃ k, level = k + 1 := ⟨level - 1, by omega⟩
    have hlevel' : pathMax ≤ level + 1 + (fullPath dir name).length := by omega
    rw [Contents.itemsBelow, ihbelow hpaths.2.1 level (Nat.succ_pos _) hlevel',
      ihrest hpaths.2.2 (level + 1) hpos hlevel]
    simp

end

end FileCountPlugin
end NetmonPlugins

import NetmonPlugins.Plugins.FileCount.Contents
import NetmonPlugins.Posix.Volume

/-!
This module contains the file system calls of `check_file_count` on a directory tree, and the count
of a tree without links in it.
-/

namespace NetmonPlugins
namespace FileCountPlugin

open Posix

def maxSymlinks : Nat := 40

section

variable {ι : Type _}

def stat (volume : Volume ι) (path : Bytes) : Option (Node ι) :=
  if path.length < pathMax then (volume.resolve maxSymlinks path).map Prod.snd else none

/-- The directory that a path leads to. -/
def identity (volume : Volume ι) (path : Bytes) : Option ι := (stat volume path).bind Node.id?

def FileSystem.ofVolume (volume : Volume ι) : FileSystem where
  s_isdir path := (stat volume path).map fun node => node.id?.isSome
  opendir path :=
    match identity volume path with
    | some id =>
      if volume.readable id then
        some (str "." :: str ".." :: (volume.entries id).map Prod.fst)
      else
        none
    | none => none

/-- The entries are the contents, none of them is a link, and all directories can be read. -/
inductive Stored (volume : Volume ι) : List (Bytes × Entry ι) → Contents → Prop where
  | nil : Stored volume [] .nil
  | file (name : Bytes) (hrest : Stored volume entries rest)
    : Stored volume ((name, .file) :: entries) (.file name rest)
  | directory (name : Bytes) (id : ι) (hreadable : volume.readable id = true)
      (hbelow : Stored volume (volume.entries id) below) (hrest : Stored volume entries rest)
    : Stored volume ((name, .directory id) :: entries) (.directory name below rest)

variable {volume : Volume ι}

theorem isDirectory_ofVolume (path : Bytes)
    : isDirectory (.ofVolume volume) path = (identity volume path).isSome := by
  cases h : stat volume path <;> simp [isDirectory, identity, FileSystem.ofVolume, h]

theorem length_lt_of_isDirectory {path : Bytes}
    (h : isDirectory (.ofVolume volume) path = true)
    : path.length < pathMax := by
  by_contra hlength
  have hnone : stat volume path = none := if_neg hlength
  simp [isDirectory_ofVolume, identity, hnone] at h

theorem names_of_opendir {path : Bytes} {names : List Bytes}
    (h : (FileSystem.ofVolume volume).opendir path = some names)
    : ∃ id,
        identity volume path = some id
          ∧
        names = str "." :: str ".." :: (volume.entries id).map Prod.fst := by
  simp only [FileSystem.ofVolume] at h
  split at h
  . next id hid =>
    split at h
    . cases h
      exact ⟨id, hid, rfl⟩
    . contradiction
  . contradiction

theorem resolve_of_identity {path : Bytes} {id : ι} (h : identity volume path = some id)
    : path ≠ [] ∧ ∃ links, volume.resolve maxSymlinks path = some (links, .directory id) := by
  unfold identity stat at h
  split at h
  . cases hresolve : volume.resolve maxSymlinks path with
    | none => simp [hresolve] at h
    | some reached =>
      obtain ⟨links, node⟩ := reached
      cases node with
      | file => simp [hresolve, Node.id?] at h
      | directory id' =>
        simp only [hresolve, Option.map_some, Option.bind_some, Node.id?, Option.some.injEq] at h
        subst h
        refine ⟨?_, links, rfl⟩
        rintro rfl
        simp [Volume.resolve] at hresolve
  . contradiction

theorem resolve_fullPath {path name : Bytes} {entry : Entry ι} {node : Node ι} {links : Nat}
    {id : ι} (hpath : path ≠ [])
    (hresolve : volume.resolve maxSymlinks path = some (links, .directory id))
    (h : (name, entry) ∈ volume.entries id) (hnode : entry.node? = some node)
    : volume.resolve maxSymlinks (fullPath path name) = some (links, node) := by
  rw [fullPath_eq, Volume.resolve_child hpath (volume.isName id _ h).2.1, hresolve]
  exact Volume.walk_of_mem h hnode links

theorem stat_of_resolve {path : Bytes} {links : Nat} {node : Node ι}
    (hlength : path.length < pathMax)
    (hresolve : volume.resolve maxSymlinks path = some (links, node))
    : stat volume path = some node := by
  rw [stat, if_pos hlength, hresolve]
  rfl

theorem Stored.names_eq {entries : List (Bytes × Entry ι)} {contents : Contents}
    (h : Stored volume entries contents)
    : contents.names = entries.map Prod.fst := by
  induction h with
  | nil => rfl
  | file name hrest ih => rw [Contents.names, ih, List.map_cons]
  | directory name id hreadable hbelow hrest ihbelow ihrest =>
    rw [Contents.names, ihrest, List.map_cons]

theorem Stored.opens {contents : Contents} {path : Bytes} {id : ι}
    (h : Stored volume (volume.entries id) contents) (hreadable : volume.readable id = true)
    (hidentity : identity volume path = some id)
    : contents.Opens (.ofVolume volume) path := by
  refine ⟨str "." :: str ".." :: (volume.entries id).map Prod.fst, ?_, ?_⟩
  . simp [FileSystem.ofVolume, hidentity, hreadable]
  . rw [h.names_eq, List.filter_cons_of_neg (by decide), List.filter_cons_of_neg (by decide),
      List.filter_eq_self]
    intro name hname
    obtain ⟨entry, hentry, rfl⟩ := List.mem_map.mp hname
    have := volume.isName id entry hentry
    simp [isDot, this.2.2.2]

theorem Stored.shown {entries : List (Bytes × Entry ι)} {contents : Contents} {path : Bytes}
    {links : Nat} {id : ι} (h : Stored volume entries contents) (hpath : path ≠ [])
    (hresolve : volume.resolve maxSymlinks path = some (links, .directory id))
    (hentries : entries ⊆ volume.entries id)
    (hpaths : ∀ path' ∈ contents.paths path, path'.length < pathMax)
    : contents.Shown (.ofVolume volume) path := by
  induction h generalizing path id with
  | nil => trivial
  | file name hrest ih =>
    simp only [Contents.paths, List.forall_mem_cons, List.cons_subset] at hpaths hentries
    refine ⟨?_, ih hpath hresolve hentries.2 hpaths.2⟩
    have hfile := resolve_fullPath hpath hresolve hentries.1 rfl
    rw [isDirectory_ofVolume, identity, stat_of_resolve hpaths.1 hfile]
    rfl
  | directory name sub hreadable hbelow hrest ihbelow ihrest =>
    simp only [Contents.paths, List.forall_mem_cons, List.forall_mem_append, List.cons_subset]
      at hpaths hentries
    have hsub := resolve_fullPath hpath hresolve hentries.1 rfl
    have hidentity : identity volume (fullPath path name) = some sub := by
      rw [identity, stat_of_resolve hpaths.1 hsub]
      rfl
    refine ⟨?_, hbelow.opens hreadable hidentity, ?_, ?_⟩
    . rw [isDirectory_ofVolume, hidentity]
      rfl
    . exact ihbelow (by simp [fullPath_eq]) hsub (List.Subset.refl _) hpaths.2.1
    . exact ihrest hpath hresolve hentries.2 hpaths.2.2

theorem Stored.countFiles_add {dir : Bytes} {id : ι} {contents : Contents}
    (h : Stored volume (volume.entries id) contents) (hdir : identity volume dir = some id)
    (hreadable : volume.readable id = true)
    (hpaths : ∀ path ∈ contents.paths dir, path.length < pathMax) (options : Options) (fds : Nat)
    : countFiles (.ofVolume volume) options (fds + 1) dir
        + (contents.itemsBelow options.recursive (fds + 1)).countP options.wants
        =
      ((contents.items options.recursive).countP options.wants : Int) := by
  obtain ⟨hne, links, hresolve⟩ := resolve_of_identity hdir
  apply countFiles_add_of_shown
  . exact h.opens hreadable hdir
  . exact h.shown hne hresolve (List.Subset.refl _) hpaths

/-- With descriptors for the longest path, all that is wanted is counted. -/
theorem Stored.countFiles_pathMax {dir : Bytes} {id : ι} {contents : Contents}
    (h : Stored volume (volume.entries id) contents) (hdir : identity volume dir = some id)
    (hreadable : volume.readable id = true)
    (hpaths : ∀ path ∈ contents.paths dir, path.length < pathMax) (options : Options)
    : countFiles (.ofVolume volume) options pathMax dir
        =
      ((contents.items options.recursive).countP options.wants : Int) := by
  have hnone : contents.itemsBelow options.recursive pathMax = [] :=
    Contents.itemsBelow_eq_nil (by decide) (Nat.le_add_right _ _) hpaths
  have hadd := h.countFiles_add hdir hreadable hpaths options (pathMax - 1)
  rw [show pathMax - 1 + 1 = pathMax from rfl, hnone] at hadd
  simpa using hadd

/--
The count of a tree without links whose directories can all be read is the number of its entries
that are wanted, if and only if there are descriptors enough for the directories they are in.
-/
theorem countFiles_stored_iff {dir : Bytes} {id : ι} {contents : Contents}
    (hdir : identity volume dir = some id) (hreadable : volume.readable id = true)
    (hstored : Stored volume (volume.entries id) contents)
    (hpaths : ∀ path ∈ contents.paths dir, path.length < pathMax) (options : Options) (fds : Nat)
    : countFiles (.ofVolume volume) options fds dir
          =
        ((contents.items options.recursive).countP options.wants : Int)
        ↔
      0 < fds
        ∧
      ∀ item ∈ contents.itemsBelow options.recursive fds, options.wants item = false := by
  cases fds with
  | zero =>
    have hneg : countFiles (.ofVolume volume) options 0 dir = -1 := rfl
    rw [hneg]
    omega
  | succ fds =>
    have hadd := hstored.countFiles_add hdir hreadable hpaths options fds
    have hnone : (contents.itemsBelow options.recursive (fds + 1)).countP options.wants = 0
        ↔
      ∀ item ∈ contents.itemsBelow options.recursive (fds + 1), options.wants item = false := by
      simp [List.countP_eq_zero]
    rw [← hnone]
    omega

end

/-- In `/srv` there are a file and a directory with a file. -/
def archive : Volume (Fin 3) where
  root := 0
  cwd := 0
  parent id := if id = 2 then 1 else 0
  depth id := id
  entries
    | 0 => [(str "srv", .directory 1)]
    | 1 => [(str "a", .file), (str "old", .directory 2)]
    | 2 => [(str "b", .file)]
  readable _ := true
  names_nodup := by decide
  isName := by decide
  target_ne_nil := by decide
  parent_root := rfl
  parent_of_mem := by decide
  depth_of_mem := by decide
  name_unique := by decide

theorem countFiles_stored_archive
    : countFiles (.ofVolume archive) { pat := [], recursive := true, countDirs := true } 2
          (str "/srv")
        =
      3 := by
  have hdir : identity archive (str "/srv") = some 1 := by decide +kernel
  have hstored : Stored archive (archive.entries 1)
      (.file (str "a") (.directory (str "old") (.file (str "b") .nil) .nil)) :=
    .file _ (.directory _ 2 rfl (.file _ .nil) .nil)
  rw [(countFiles_stored_iff hdir rfl hstored (by decide) _ 2).mpr (by decide)]
  decide

/-- One file, in the last of `n` directories that are in one another. -/
def Contents.nested : (n : Nat) → Contents
  | 0 => .file (str "a") .nil
  | n + 1 => .directory (str "d") (nested n) .nil

def nested (n : Nat) : Volume Nat where
  root := 0
  cwd := 0
  parent id := id - 1
  depth id := id
  entries id := if id < n then [(str "d", .directory (id + 1))] else [(str "a", .file)]
  readable _ := true
  names_nodup id := by split <;> simp
  isName id := by
    have : IsName (str "d") ∧ IsName (str "a") := by decide
    split <;> simp [this]
  target_ne_nil id := by split <;> simp
  parent_root := rfl
  parent_of_mem id := by split <;> simp
  depth_of_mem id := by split <;> simp
  name_unique id := by split <;> simp

theorem stored_nested {n k : Nat} (hk : k ≤ n)
    : Stored (nested n) ((nested n).entries (n - k)) (.nested k) := by
  induction k with
  | zero =>
    have hentries : (nested n).entries (n - 0) = [(str "a", .file)] := if_neg (by simp)
    rw [hentries]
    exact .file _ .nil
  | succ k ih =>
    have hentries
        : (nested n).entries (n - (k + 1)) = [(str "d", .directory (n - (k + 1) + 1))] :=
      if_pos (by omega)
    have hid : n - (k + 1) + 1 = n - k := by omega
    rw [hentries, hid]
    exact .directory _ _ rfl (ih (by omega)) .nil

theorem length_of_mem_paths_nested {n : Nat} {dir path : Bytes}
    (h : path ∈ (Contents.nested n).paths dir)
    : path.length ≤ dir.length + 2 * (n + 1) := by
  induction n generalizing dir with
  | zero =>
    have hlength : (fullPath dir (str "a")).length = dir.length + 1 + 1 := length_fullPath _ _
    simp only [Contents.nested, Contents.paths, List.mem_singleton] at h
    rw [h, hlength]
  | succ n ih =>
    have hlength : (fullPath dir (str "d")).length = dir.length + 1 + 1 := length_fullPath _ _
    simp only [Contents.nested, Contents.paths, List.append_nil, List.mem_cons] at h
    rcases h with rfl | h
    . omega
    . have := ih h
      omega

theorem itemsBelow_nested (level n : Nat)
    : (Contents.nested (level + n)).itemsBelow true level = (Contents.nested n).items true := by
  induction level with
  | zero => rw [Nat.zero_add, Contents.itemsBelow]
  | succ level ih =>
    have hadd : level + 1 + n = level + n + 1 := by omega
    rw [hadd, Contents.nested, Contents.itemsBelow, if_pos rfl, ih, Contents.itemsBelow,
      List.append_nil]

theorem countP_items_nested (n : Nat)
    : ((Contents.nested n).items true).countP
          (Options.wants { pat := [], recursive := true, countDirs := false })
        =
      1 := by
  induction n with
  | zero => decide
  | succ n ih =>
    rw [Contents.nested, Contents.items, if_pos rfl, Contents.items, List.append_nil,
      List.countP_cons_of_neg (by decide), ih]

/-- With 1021 descriptors the file behind 1100 directories is not counted. -/
theorem countFiles_nested
    : identity (nested 1100) (str "/d") = some 1
        ∧
      Stored (nested 1100) ((nested 1100).entries 1) (.nested 1099)
        ∧
      (∀ path ∈ (Contents.nested 1099).paths (str "/d"), path.length < pathMax)
        ∧
      ((Contents.nested 1099).items true).countP
          (Options.wants { pat := [], recursive := true, countDirs := false })
        = 1
        ∧
      countFiles (.ofVolume (nested 1100)) { pat := [], recursive := true, countDirs := false } 1021
          (str "/d")
        = 0 := by
  have hdir : identity (nested 1100) (str "/d") = some 1 := by decide +kernel
  have hstored : Stored (nested 1100) ((nested 1100).entries 1) (.nested 1099) :=
    stored_nested (k := 1099) (by decide)
  have hpaths : ∀ path ∈ (Contents.nested 1099).paths (str "/d"), path.length < pathMax := by
    intro path hpath
    have hlength := length_of_mem_paths_nested hpath
    have hdir : (str "/d").length = 2 := by decide
    unfold pathMax
    omega
  refine ⟨hdir, hstored, hpaths, countP_items_nested 1099, ?_⟩
  have hadd := hstored.countFiles_add hdir rfl hpaths
    { pat := [], recursive := true, countDirs := false } 1020
  rw [itemsBelow_nested 1021 78, countP_items_nested, countP_items_nested] at hadd
  simpa using hadd

end FileCountPlugin
end NetmonPlugins

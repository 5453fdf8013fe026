import NetmonPlugins.Plugins.FileCount.Visits
import NetmonPlugins.Plugins.FileCount.Volume

/-!
This module determines the directory trees with links in which the walk of `check_file_count` comes
to each directory once. The walk follows links, and nothing records where it has been.
-/

namespace NetmonPlugins
namespace FileCountPlugin

open Posix

theorem lawful_ofVolume {ι : Type _} (volume : Volume ι) : (FileSystem.ofVolume volume).Lawful where
  names_nodup dir names h := by
    obtain ⟨id, -, rfl⟩ := names_of_opendir h
    have hname : ∀ name ∈ (volume.entries id).map Prod.fst, IsName name := by
      intro name hname
      obtain ⟨entry, hentry, rfl⟩ := List.mem_map.mp hname
      exact volume.isName id entry hentry
    rw [List.nodup_cons, List.nodup_cons]
    refine ⟨?_, ?_, volume.names_nodup id⟩
    . rw [List.mem_cons, not_or]
      exact ⟨by decide, fun h => (hname _ h).2.2.2.1 rfl⟩
    . exact fun h => (hname _ h).2.2.2.2 rfl
  notMem_slash dir names h name hname := by
    obtain ⟨id, -, rfl⟩ := names_of_opendir h
    simp only [List.mem_cons] at hname
    rcases hname with rfl | rfl | hname
    . decide
    . decide
    . obtain ⟨entry, hentry, rfl⟩ := List.mem_map.mp hname
      exact (volume.isName id entry hentry).2.1
  length_lt path := length_lt_of_isDirectory

theorem fullPath_inj {dir dir' name name' : Bytes} (hname : 47 ∉ name) (hname' : 47 ∉ name')
    (h : fullPath dir name = fullPath dir' name')
    : dir = dir' ∧ name = name' := by
  rw [fullPath_eq, fullPath_eq] at h
  have hcomponents := congrArg components h
  rw [components_append_slash dir hname, components_append_slash dir' hname'] at hcomponents
  have heq : name = name' := by simpa using (List.append_inj' hcomponents rfl).2
  subst heq
  exact ⟨List.append_cancel_right h, rfl⟩

section

variable {ι : Type _} (volume : Volume ι) (options : Options) (top : Bytes)

/-- The walk ends, comes to each directory once and counts each entry once. -/
structure Once : Prop where
  -- It is never for want of descriptors that the recursion ends.
  terminates : ∀ fds ≥ pathMax,
    visits (.ofVolume volume) options fds top = visits (.ofVolume volume) options pathMax top
      ∧
    countFiles (.ofVolume volume) options fds top
      = countFiles (.ofVolume volume) options pathMax top
  visited : ((visits (.ofVolume volume) options pathMax top).map (identity volume)).Nodup
  counted :
    ((contributions (.ofVolume volume) options pathMax top).map fun entry =>
      (identity volume entry.1, entry.2)).Nodup

/-- No entry that the walk goes into leads back to `top` or where another one leads. -/
structure Unshared : Prop where
  ne_top : ∀ dir name, Entered (.ofVolume volume) options top dir name
    → identity volume (fullPath dir name) ≠ identity volume top
  entry_eq : ∀ dir name dir' name', Entered (.ofVolume volume) options top dir name
    → Entered (.ofVolume volume) options top dir' name'
    → identity volume (fullPath dir name) = identity volume (fullPath dir' name')
    → identity volume dir = identity volume dir' ∧ name = name'

variable {volume options top}

theorem Unshared.eq_of_reached (h : Unshared volume options top) {path path' : Bytes}
    (hpath : Reached (.ofVolume volume) options top path)
    (hpath' : Reached (.ofVolume volume) options top path')
    (heq : identity volume path = identity volume path')
    : path = path' := by
  induction hpath generalizing path' with
  | top =>
    cases hpath' with
    | top => rfl
    | entry dir name names hdir hnames hmem henters =>
      exact absurd heq.symm (h.ne_top dir name ⟨hdir, names, hnames, hmem, henters⟩)
  | entry dir name names hdir hnames hmem henters ih =>
    have hentered : Entered (.ofVolume volume) options top dir name :=
      ⟨hdir, names, hnames, hmem, henters⟩
    cases hpath' with
    | top => exact absurd heq (h.ne_top dir name hentered)
    | entry dir' name' names' hdir' hnames' hmem' henters' =>
      obtain ⟨hid, rfl⟩ :=
        h.entry_eq dir name dir' name' hentered ⟨hdir', names', hnames', hmem', henters'⟩ heq
      rw [ih hdir' hid]

theorem Unshared.visited (h : Unshared volume options top)
    : ((visits (.ofVolume volume) options pathMax top).map (identity volume)).Nodup := by
  have hlawful := lawful_ofVolume volume
  rw [List.nodup_map_iff_inj_on (hlawful.visits_nodup _ _)]
  intro path hpath path' hpath' heq
  rw [hlawful.mem_visits_iff] at hpath hpath'
  exact h.eq_of_reached hpath hpath' heq

theorem reached_fullPath {dir name : Bytes}
    (h : Entered (.ofVolume volume) options top dir name)
    : Reached (.ofVolume volume) options top (fullPath dir name) := by
  obtain ⟨hdir, names, hnames, hmem, henters⟩ := h
  exact .entry dir name names hdir hnames hmem henters

theorem length_le_of_reached {path : Bytes} (h : Reached (.ofVolume volume) options top path)
    : top.length ≤ path.length := by
  induction h with
  | top => exact le_rfl
  | entry dir name names hdir hnames hmem henters ih =>
    rw [length_fullPath]
    omega

theorem unshared_of_visited
    (h : ((visits (.ofVolume volume) options pathMax top).map (identity volume)).Nodup)
    : Unshared volume options top := by
  have hlawful := lawful_ofVolume volume
  have hinj {path path' : Bytes} (hpath : Reached (.ofVolume volume) options top path)
      (hpath' : Reached (.ofVolume volume) options top path')
      (heq : identity volume path = identity volume path')
      : path = path' :=
    List.inj_on_of_nodup_map h ((hlawful.mem_visits_iff _ _).mpr hpath)
      ((hlawful.mem_visits_iff _ _).mpr hpath') heq
  constructor
  . intro dir name hentered heq
    have hpath := hinj (reached_fullPath hentered) .top heq
    have hlength := length_le_of_reached hentered.1
    rw [← hpath, length_fullPath] at hlength
    omega
  . intro dir name dir' name' hentered hentered' heq
    have hpath := hinj (reached_fullPath hentered) (reached_fullPath hentered') heq
    obtain ⟨-, names, hnames, hmem, -⟩ := hentered
    obtain ⟨-, names', hnames', hmem', -⟩ := hentered'
    obtain ⟨rfl, rfl⟩ := fullPath_inj (hlawful.notMem_slash dir names hnames name hmem)
      (hlawful.notMem_slash dir' names' hnames' name' hmem') hpath
    exact ⟨rfl, rfl⟩

theorem fst_of_mem_counted {fileSystem : FileSystem} {dir : Bytes} {entry : Bytes × Bytes}
    (h : entry ∈ FileCountPlugin.counted fileSystem options dir)
    : entry.1 = dir := by
  unfold FileCountPlugin.counted at h
  split at h
  . contradiction
  . obtain ⟨name, -, rfl⟩ := List.mem_map.mp h
    rfl

theorem counted_nodup
    (h : ((visits (.ofVolume volume) options pathMax top).map (identity volume)).Nodup)
    : ((contributions (.ofVolume volume) options pathMax top).map fun entry =>
        (identity volume entry.1, entry.2)).Nodup := by
  unfold contributions
  rw [List.map_flatMap, List.nodup_flatMap]
  constructor
  . intro dir _
    unfold counted
    split
    . exact List.nodup_nil
    . next names hnames =>
      rw [List.map_map]
      refine List.Nodup.map ?_ (((lawful_ofVolume volume).names_nodup dir names hnames).filter _)
      intro name name' heq
      exact (Prod.mk.inj heq).2
  . refine (List.pairwise_map.mp h).imp ?_
    intro dir dir' hne entry hentry hentry'
    obtain ⟨⟨_, name⟩, hname, rfl⟩ := List.mem_map.mp hentry
    obtain ⟨⟨_, name'⟩, hname', heq⟩ := List.mem_map.mp hentry'
    rw [fst_of_mem_counted hname, fst_of_mem_counted hname'] at heq
    exact hne (Prod.mk.inj heq).1.symm

theorem Unshared.once (h : Unshared volume options top) : Once volume options top where
  terminates _ hfds :=
    ⟨(lawful_ofVolume volume).visits_of_pathMax_le hfds top,
      (lawful_ofVolume volume).countFiles_of_pathMax_le hfds top⟩
  visited := h.visited
  counted := counted_nodup h.visited

theorem entered_directory {dir name : Bytes}
    (hlink : ∀ id target, identity volume dir = some id → (name, .link target) ∉ volume.entries id)
    (h : Entered (.ofVolume volume) options top dir name)
    : ∃ id sub,
        identity volume dir = some id ∧ (name, .directory sub) ∈ volume.entries id
          ∧
        identity volume (fullPath dir name) = some sub := by
  obtain ⟨hdir, names, hnames, hmem, henters⟩ := h
  obtain ⟨id, hid, rfl⟩ := names_of_opendir hnames
  obtain ⟨hne, links, hresolve⟩ := resolve_of_identity hid
  have hname : name ∈ (volume.entries id).map Prod.fst := by
    simp only [enters, isDot, Bool.and_eq_true, Bool.not_eq_true', decide_eq_false_iff_not,
      not_or] at henters
    simpa [henters.1.1] using hmem
  obtain ⟨⟨_, entry⟩, hentry, rfl⟩ := List.mem_map.mp hname
  have hisDir := isDirectory_of_enters henters
  have hlength := length_lt_of_isDirectory hisDir
  rw [isDirectory_ofVolume] at hisDir
  cases entry with
  | file =>
    have hfile := resolve_fullPath hne hresolve hentry rfl
    rw [identity, stat_of_resolve hlength hfile] at hisDir
    contradiction
  | directory sub =>
    have hsub := resolve_fullPath hne hresolve hentry rfl
    refine ⟨id, sub, hid, hentry, ?_⟩
    rw [identity, stat_of_resolve hlength hsub]
    rfl
  | link target => exact absurd hentry (hlink id target hid)

theorem depth_lt_of_reached
    (hlink : ∀ dir name, Entered (.ofVolume volume) options top dir name
      → ∀ id target, identity volume dir = some id → (name, .link target) ∉ volume.entries id)
    {path : Bytes} (h : Reached (.ofVolume volume) options top path)
    : path = top
        ∨
      ∃ first id,
        identity volume top = some first ∧ identity volume path = some id
          ∧
        volume.depth first < volume.depth id := by
  induction h with
  | top => exact .inl rfl
  | entry dir name names hdir hnames hmem henters ih =>
    right
    have hentered : Entered (.ofVolume volume) options top dir name :=
      ⟨hdir, names, hnames, hmem, henters⟩
    obtain ⟨id, sub, hid, hentry, hsub⟩ := entered_directory (hlink dir name hentered) hentered
    have hdepth := volume.depth_of_mem id _ hentry sub rfl
    rcases ih with rfl | ⟨first, id', hfirst, hid', hlt⟩
    . exact ⟨id, sub, hid, hsub, by omega⟩
    . cases hid.symm.trans hid'
      exact ⟨first, sub, hfirst, hsub, by omega⟩

/-- A walk that goes into no link is in order: it takes a link to come to a directory again. -/
theorem once_of_no_links
    (hlink : ∀ dir name, Entered (.ofVolume volume) options top dir name
      → ∀ id target, identity volume dir = some id → (name, .link target) ∉ volume.entries id)
    : Once volume options top := by
  apply Unshared.once
  constructor
  . intro dir name hentered heq
    rcases depth_lt_of_reached hlink (reached_fullPath hentered) with
      htop | ⟨first, id, hfirst, hid, hlt⟩
    . have hlength := length_le_of_reached hentered.1
      rw [← htop, length_fullPath] at hlength
      omega
    . cases hfirst.symm.trans (heq.symm.trans hid)
      omega
  . intro dir name dir' name' hentered hentered' heq
    obtain ⟨id, sub, hid, hentry, hsub⟩ := entered_directory (hlink dir name hentered) hentered
    obtain ⟨id', sub', hid', hentry', hsub'⟩ :=
      entered_directory (hlink dir' name' hentered') hentered'
    cases hsub.symm.trans (heq.trans hsub')
    -- The two entries are entries of the one directory above.
    have hparent : id = id' :=
      (volume.parent_of_mem id _ hentry sub rfl).symm.trans
        (volume.parent_of_mem id' _ hentry' sub rfl)
    subst hparent
    exact ⟨hid.trans hid'.symm, volume.name_unique id _ hentry _ hentry' sub rfl rfl⟩

/-- The walk is in order if and only if no entry leads to a directory that it comes to anyway. -/
theorem once_iff_unshared (volume : Volume ι) (options : Options) (top : Bytes)
    : Once volume options top ↔ Unshared volume options top := by
  constructor
  . intro h
    exact unshared_of_visited h.visited
  . intro h
    exact h.once

end

/-- In `/srv` there are a file and a link to `/srv`. -/
def looped : Volume Bool where
  root := false
  cwd := false
  parent _ := false
  depth
    | false => 0
    | true => 1
  entries
    | false => [(str "srv", .directory true)]
    | true => [(str "a", .file), (str "up", .link (str "."))]
  readable _ := true
  names_nodup := by decide
  isName := by decide
  target_ne_nil := by decide
  parent_root := rfl
  parent_of_mem := by decide
  depth_of_mem := by decide
  name_unique := by decide

theorem not_once_looped
    : ¬ Once looped { pat := [], recursive := true, countDirs := false } (str "/srv")
        ∧
      countFiles (.ofVolume looped) { pat := [], recursive := true, countDirs := false } pathMax
        (str "/srv") = 42 := by
  constructor
  . intro h
    have := h.visited
    revert this
    decide +kernel
  . decide +kernel

end FileCountPlugin
end NetmonPlugins

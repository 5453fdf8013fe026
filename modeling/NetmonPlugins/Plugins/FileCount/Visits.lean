import NetmonPlugins.Plugins.FileCount.Walk

/-!
This module contains what holds of every walk of `check_file_count`: it comes to a path once, and
the length of the paths bounds it.
-/

namespace NetmonPlugins
namespace FileCountPlugin

/-- What the walk relies on: names are distinct and have no slash, and no path is too long. -/
structure FileSystem.Lawful (fileSystem : FileSystem) : Prop where
  names_nodup : ∀ dir names, fileSystem.opendir dir = some names → names.Nodup
  notMem_slash : ∀ dir names, fileSystem.opendir dir = some names → ∀ name ∈ names, 47 ∉ name
  length_lt : ∀ path, isDirectory fileSystem path = true → path.length < pathMax

section

variable {fileSystem : FileSystem} {options : Options}

theorem isDirectory_of_enters {dir name : Bytes}
    (h : enters fileSystem options dir name = true)
    : isDirectory fileSystem (fullPath dir name) = true := by
  unfold enters at h
  simp only [Bool.and_eq_true] at h
  exact h.1.2

theorem eq_append_of_mem_visits {fds : Nat} {dir path : Bytes}
    (h : path ∈ visits fileSystem options fds dir)
    : ∃ rest, path = dir ++ rest ∧ ∀ c ∈ rest.head?, c = 47 := by
  induction fds generalizing dir with
  | zero => simp [visits] at h
  | succ fds ih =>
    rw [visits, List.mem_cons] at h
    rcases h with rfl | h
    . exact ⟨[], by simp, by simp⟩
    . split at h
      . contradiction
      . rw [List.mem_flatMap] at h
        obtain ⟨name, -, hpath⟩ := h
        obtain ⟨rest, rfl, -⟩ := ih hpath
        exact ⟨47 :: (name ++ rest), by simp [fullPath_eq], by simp⟩

theorem name_eq_of_mem_visits {fds : Nat} {dir name name' path : Bytes} (hname : 47 ∉ name)
    (hname' : 47 ∉ name') (h : path ∈ visits fileSystem options fds (fullPath dir name))
    (h' : path ∈ visits fileSystem options fds (fullPath dir name'))
    : name = name' := by
  obtain ⟨rest, rfl, hrest⟩ := eq_append_of_mem_visits h
  obtain ⟨rest', heq, hrest'⟩ := eq_append_of_mem_visits h'
  simp only [fullPath_eq, List.append_assoc, List.cons_append, List.append_cancel_left_eq,
    List.cons.injEq, true_and] at heq
  have htake {name rest : Bytes} (hname : 47 ∉ name) (hrest : ∀ c ∈ rest.head?, c = 47)
      : (name ++ rest).takeWhile (· ≠ 47) = name := by
    apply takeWhile_append_of_head
    . intro c hc
      have : c ≠ 47 := fun heq => hname (heq ▸ hc)
      simpa using this
    . intro c hc
      simp [hrest c hc]
  calc
    name = (name ++ rest).takeWhile (· ≠ 47) := (htake hname hrest).symm
    _ = (name' ++ rest').takeWhile (· ≠ 47) := by rw [heq]
    _ = name' := htake hname' hrest'

theorem FileSystem.Lawful.visits_nodup (hlawful : fileSystem.Lawful) (fds : Nat) (dir : Bytes)
    : (visits fileSystem options fds dir).Nodup := by
  induction fds generalizing dir with
  | zero => exact List.nodup_nil
  | succ fds ih =>
    rw [visits, List.nodup_cons]
    split
    . exact ⟨List.not_mem_nil, List.nodup_nil⟩
    . next names hnames =>
      constructor
      . intro hmem
        rw [List.mem_flatMap] at hmem
        obtain ⟨name, -, hdir⟩ := hmem
        obtain ⟨rest, heq, -⟩ := eq_append_of_mem_visits hdir
        have := congrArg List.length heq
        rw [List.length_append, length_fullPath] at this
        omega
      . rw [List.nodup_flatMap]
        refine ⟨fun name _ => ih _, ?_⟩
        have hnodup := (hlawful.names_nodup dir names hnames).filter (enters fileSystem options dir)
        refine hnodup.imp_of_mem ?_
        intro name name' hname hname' hne path hpath hpath'
        have hslash := hlawful.notMem_slash dir names hnames
        exact hne (name_eq_of_mem_visits (hslash _ (List.mem_of_mem_filter hname))
          (hslash _ (List.mem_of_mem_filter hname')) hpath hpath')

def Entered (fileSystem : FileSystem) (options : Options) (top dir name : Bytes) : Prop :=
  Reached fileSystem options top dir
    ∧
  ∃ names,
    fileSystem.opendir dir = some names ∧ name ∈ names
      ∧
    enters fileSystem options dir name = true

theorem reached_of_mem_visits {fds : Nat} {top dir path : Bytes}
    (hdir : Reached fileSystem options top dir)
    (h : path ∈ visits fileSystem options fds dir)
    : Reached fileSystem options top path := by
  induction fds generalizing dir with
  | zero => simp [visits] at h
  | succ fds ih =>
    rw [visits, List.mem_cons] at h
    rcases h with rfl | h
    . exact hdir
    . split at h
      . contradiction
      . next names hnames =>
        rw [List.mem_flatMap] at h
        obtain ⟨name, hname, hpath⟩ := h
        rw [List.mem_filter] at hname
        exact ih (.entry dir name names hdir hnames hname.1 hname.2) hpath

theorem FileSystem.Lawful.visits_eq (hlawful : fileSystem.Lawful) {fds fds' : Nat} {dir : Bytes}
    (hpos : 0 < fds) (hpos' : 0 < fds') (hfds : pathMax ≤ fds + dir.length)
    (hfds' : pathMax ≤ fds' + dir.length)
    : visits fileSystem options fds dir = visits fileSystem options fds' dir := by
  induction fds generalizing fds' dir with
  | zero => contradiction
  | succ fds ih =>
    obtain ⟨fds', rfl⟩ : ∃ k, fds' = k + 1 := ⟨fds' - 1, by omega⟩
    rw [visits, visits]
    congr 1
    split
    . rfl
    . next names hnames =>
      apply List.flatMap_congr
      intro name hname
      rw [List.mem_filter] at hname
      -- The path is within the limit, so neither walk has run out of descriptors there.
      have hlt := hlawful.length_lt _ (isDirectory_of_enters hname.2)
      have hlength := length_fullPath dir name
      apply ih
      . omega
      . omega
      . omega
      . omega

theorem pathMax_pos : 0 < pathMax := by decide

theorem FileSystem.Lawful.visits_of_pathMax_le (hlawful : fileSystem.Lawful) {fds : Nat}
    (hfds : pathMax ≤ fds) (dir : Bytes)
    : visits fileSystem options fds dir = visits fileSystem options pathMax dir := by
  have hpos := pathMax_pos
  apply hlawful.visits_eq
  . omega
  . exact hpos
  . omega
  . omega

theorem child_mem_visits {fds : Nat} {top dir name : Bytes} {names : List Bytes}
    (h : dir ∈ visits fileSystem options fds top) (hnames : fileSystem.opendir dir = some names)
    (hmem : name ∈ names) (henters : enters fileSystem options dir name = true)
    : fullPath dir name ∈ visits fileSystem options (fds + 1) top := by
  induction fds generalizing top with
  | zero => simp [visits] at h
  | succ fds ih =>
    rw [visits, List.mem_cons] at h
    rw [visits, List.mem_cons]
    right
    rcases h with rfl | h
    . rw [hnames]
      exact List.mem_flatMap.mpr ⟨name, List.mem_filter.mpr ⟨hmem, henters⟩, List.mem_cons_self⟩
    . split at h
      . contradiction
      . next names' hnames' =>
        rw [List.mem_flatMap] at h
        obtain ⟨name', hname', hdir⟩ := h
        exact List.mem_flatMap.mpr ⟨name', hname', ih hdir⟩

theorem FileSystem.Lawful.mem_visits_iff (hlawful : fileSystem.Lawful) (top path : Bytes)
    : path ∈ visits fileSystem options pathMax top ↔ Reached fileSystem options top path := by
  constructor
  . exact reached_of_mem_visits .top
  . intro h
    induction h with
    | top => exact List.mem_cons_self
    | entry dir name names hdir hnames hmem henters ih =>
      rw [← hlawful.visits_of_pathMax_le (Nat.le_succ pathMax)]
      exact child_mem_visits ih hnames hmem henters

theorem FileSystem.Lawful.countFiles_of_pathMax_le (hlawful : fileSystem.Lawful) {fds : Nat}
    (hfds : pathMax ≤ fds) (dir : Bytes)
    : countFiles fileSystem options fds dir = countFiles fileSystem options pathMax dir := by
  have hpos := pathMax_pos
  obtain ⟨fds, rfl⟩ : ∃ k, fds = k + 1 := ⟨fds - 1, by omega⟩
  show _ = countFiles fileSystem options (pathMax - 1 + 1) dir
  cases h : fileSystem.opendir dir with
  | none => simp [countFiles, h]
  | some names =>
    rw [countFiles_of_opendir h, countFiles_of_opendir h, contributions, contributions,
      hlawful.visits_of_pathMax_le hfds]
    rfl

end

end FileCountPlugin
end NetmonPlugins

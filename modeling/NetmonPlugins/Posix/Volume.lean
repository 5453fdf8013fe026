import NetmonPlugins.Cxx.Bytes
import Mathlib.Data.List.Nodup

/-!
This module contains directory trees with symbolic links and the resolution of paths in them. Every
link on the way is followed, the last one too, up to a number of links.
-/

namespace NetmonPlugins
namespace Posix

/-- The texts between the slashes; there is one more than there are slashes. -/
def components : Bytes → List Bytes
  | [] => [[]]
  | c :: path =>
    if c = 47 then
      [] :: components path
    else
      match components path with
      | [] => [[c]]
      | first :: rest => (c :: first) :: rest

theorem components_ne_nil (path : Bytes) : components path ≠ [] := by
  cases path with
  | nil => simp [components]
  | cons c path =>
    unfold components
    split
    . simp
    . split <;> simp

theorem components_of_notMem {name : Bytes} (h : 47 ∉ name) : components name = [name] := by
  induction name with
  | nil => rfl
  | cons c name ih =>
    simp only [List.mem_cons, not_or] at h
    rw [components, if_neg (Ne.symm h.1), ih h.2]

theorem components_append_slash (path : Bytes) {name : Bytes} (h : 47 ∉ name)
    : components (path ++ 47 :: name) = components path ++ [name] := by
  induction path with
  | nil => simp [components, components_of_notMem h]
  | cons c path ih =>
    rw [List.cons_append, components, components, ih]
    split
    . rfl
    . cases hpath : components path with
      | nil => exact absurd hpath (components_ne_nil path)
      | cons first rest => rfl

inductive Entry (ι : Type _) where
  -- Whatever is neither a directory nor a link.
  | file
  | directory (id : ι)
  | link (target : Bytes)
  deriving DecidableEq

def IsName (name : Bytes) : Prop :=
  name ≠ [] ∧ 47 ∉ name ∧ 0 ∉ name ∧ name ≠ str "." ∧ name ≠ str ".."

instance (name : Bytes) : Decidable (IsName name) := inferInstanceAs (Decidable (_ ∧ _))

/-- A tree of directories, each with an identity of its own. -/
structure Volume (ι : Type _) where
  root : ι
  -- Where relative paths begin.
  cwd : ι
  parent : ι → ι
  depth : ι → Nat
  entries : ι → List (Bytes × Entry ι)
  readable : ι → Bool
  names_nodup : ∀ id, ((entries id).map Prod.fst).Nodup
  isName : ∀ id, ∀ entry ∈ entries id, IsName entry.1
  target_ne_nil : ∀ id, ∀ entry ∈ entries id, entry.2 ≠ .link []
  parent_root : parent root = root
  parent_of_mem : ∀ id, ∀ entry ∈ entries id, ∀ sub, entry.2 = .directory sub → parent sub = id
  depth_of_mem : ∀ id, ∀ entry ∈ entries id, ∀ sub, entry.2 = .directory sub
    → depth sub = depth id + 1
  name_unique : ∀ id, ∀ entry ∈ entries id, ∀ entry' ∈ entries id, ∀ sub,
    entry.2 = .directory sub → entry'.2 = .directory sub → entry.1 = entry'.1

inductive Node (ι : Type _) where
  | file
  | directory (id : ι)
  deriving DecidableEq

def Node.id? {ι : Type _} : Node ι → Option ι
  | .file => none
  | .directory id => some id

def Entry.node? {ι : Type _} : Entry ι → Option (Node ι)
  | .file => some .file
  | .directory id => some (.directory id)
  | .link _ => none

theorem lookup_of_mem {α β : Type _} [BEq α] [LawfulBEq α] {entries : List (α × β)} {name : α}
    {entry : β} (hnodup : (entries.map Prod.fst).Nodup) (h : (name, entry) ∈ entries)
    : entries.lookup name = some entry := by
  obtain ⟨before, behind, rfl⟩ := List.append_of_mem h
  rw [List.map_append, List.nodup_append] at hnodup
  rw [List.lookup_eq_some_iff]
  refine ⟨before, behind, rfl, ?_⟩
  intro other hother
  have := hnodup.2.2 other.1 (List.mem_map_of_mem hother) name (by simp)
  simpa using Ne.symm this

namespace Volume

variable {ι : Type _} (volume : Volume ι)

def start (here : ι) (path : Bytes) : Node ι :=
  .directory (if path.head? = some 47 then volume.root else here)

/-- The walk up to the next link, which `follow` resolves together with what is left. -/
def walkWith (follow : Node ι → List Bytes → Option (Nat × Node ι)) (links : Nat)
    : (node : Node ι) → (path : List Bytes) → Option (Nat × Node ι)
  | node, [] => some (links, node)
  | .file, _ :: _ => none
  | .directory here, name :: path =>
    if name = [] ∨ name = str "." then
      walkWith follow links (.directory here) path
    else if name = str ".." then
      walkWith follow links (.directory (volume.parent here)) path
    else
      match (volume.entries here).lookup name with
      | none => none
      | some .file => walkWith follow links .file path
      | some (.directory id) => walkWith follow links (.directory id) path
      | some (.link target) => follow (volume.start here target) (components target ++ path)

/-- `links` is the number of links that may still be followed; the result has what is left of it. -/
def walk : (links : Nat) → (node : Node ι) → (path : List Bytes) → Option (Nat × Node ι)
  | 0 => volume.walkWith (fun _ _ => none) 0
  | links + 1 => volume.walkWith (walk links) (links + 1)

def resolve (links : Nat) (path : Bytes) : Option (Nat × Node ι) :=
  if path = [] then none else volume.walk links (volume.start volume.cwd path) (components path)

variable {volume}

theorem walkWith_append {follow : Node ι → List Bytes → Option (Nat × Node ι)} {links : Nat}
    {path' : List Bytes} {next : Nat × Node ι → Option (Nat × Node ι)}
    (hnext : ∀ node, volume.walkWith follow links node path' = next (links, node))
    (hfollow : ∀ node path, follow node (path ++ path') = (follow node path).bind next)
    (node : Node ι) (path : List Bytes)
    : volume.walkWith follow links node (path ++ path')
        =
      (volume.walkWith follow links node path).bind next := by
  induction path generalizing node with
  | nil =>
    cases node with
    | file => exact hnext _
    | directory here => exact hnext _
  | cons name path ih =>
    cases node with
    | file => rfl
    | directory here =>
      rw [List.cons_append, walkWith, walkWith]
      split
      . exact ih _
      . split
        . exact ih _
        . split
          . rfl
          . exact ih _
          . exact ih _
          . rw [← List.append_assoc]
            exact hfollow _ _

theorem walk_append (links : Nat) (node : Node ι) (path path' : List Bytes)
    : volume.walk links node (path ++ path')
        =
      (volume.walk links node path).bind fun reached =>
        volume.walk reached.1 reached.2 path' := by
  induction links generalizing node path with
  | zero =>
    apply walkWith_append
    . intro node
      rfl
    . intro node path
      rfl
  | succ links ih =>
    apply walkWith_append
    . intro node
      rfl
    . intro node path
      exact ih node path

theorem resolve_child {path name : Bytes} (hpath : path ≠ []) (hname : 47 ∉ name) (links : Nat)
    : volume.resolve links (path ++ 47 :: name)
        =
      (volume.resolve links path).bind fun reached =>
        volume.walk reached.1 reached.2 [name] := by
  unfold resolve start
  rw [if_neg (by simp), if_neg hpath, components_append_slash path hname, walk_append,
    List.head?_append_of_ne_nil _ hpath]

theorem walk_of_mem {here : ι} {name : Bytes} {entry : Entry ι} {node : Node ι}
    (h : (name, entry) ∈ volume.entries here) (hnode : entry.node? = some node) (links : Nat)
    : volume.walk links (.directory here) [name] = some (links, node) := by
  obtain ⟨hne, -, -, hdot, hdotdot⟩ := volume.isName here _ h
  have hlookup := lookup_of_mem (volume.names_nodup here) h
  have hwith (follow : Node ι → List Bytes → Option (Nat × Node ι))
      : volume.walkWith follow links (.directory here) [name] = some (links, node) := by
    rw [walkWith, if_neg (by simp [hne, hdot]), if_neg hdotdot, hlookup]
    cases entry with
    | file =>
      cases hnode
      rfl
    | directory id =>
      cases hnode
      rfl
    | link target => contradiction
  cases links with
  | zero => exact hwith _
  | succ links => exact hwith _

end Volume
end Posix
end NetmonPlugins

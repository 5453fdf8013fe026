import Mathlib.Data.List.Nodup
import Mathlib.Data.List.Pairwise
import NetmonPlugins.Common.CommandLine
import NetmonPlugins.Cxx.Strtod

/-!
This module contains the `parseArguments` of the plugins whose options are each about a part of the
configuration, and determines what the loop over `argv` makes of a command line: it reads every
part on its own.
-/

namespace NetmonPlugins
namespace CommandLine

/-- What an option does to the part of the configuration that it is about. -/
inductive Effect (α : Type) where
  | set (f : α → α)
  -- The next argument is converted; behind the last argument nothing happens.
  | value (convert : Bytes → Except Fault (α → α))

theorem ext_of_id {α : Type} (part part' : α)
    (h : ∀ m ∈ [(⟨α, id⟩ : (β : Type) × (α → β))], m.2 part = m.2 part')
    : part = part' :=
  h _ (List.mem_singleton_self _)

/-- A part of the configuration with the options that are about it. -/
structure Setting (σ : Type) where
  Part : Type
  get : σ → Part
  put : Part → σ → σ
  get_put : ∀ part s, get (put part s) = part
  put_get : ∀ s, put (get s) s = s
  -- The members of the configuration that the part has.
  members : List ((α : Type) × (Part → α)) := [⟨Part, id⟩]
  members_ext : ∀ part part', (∀ m ∈ members, m.2 part = m.2 part') → part = part' := by
    exact ext_of_id
  options : List (List Bytes × Effect Part)
  -- What an argument does that starts with no dash and is no value of an option.
  positional : Option (Bytes → Part → Part) := none

variable {σ : Type}

namespace Setting

def names (setting : Setting σ) : List Bytes := setting.options.flatMap (·.1)

def effect? (setting : Setting σ) (arg : Bytes) : Option (Effect setting.Part) :=
  match setting.options.find? (·.1.contains arg) with
  | some option => some option.2
  | none =>
    if arg.head? = some 45 then
      none
    else
      setting.positional.map fun place => .set (place arg)

def lift (setting : Setting σ) : Effect setting.Part → Branch σ
  | .set f => .set fun s => setting.put (f (setting.get s)) s
  | .value convert => .value fun value =>
    (convert value).map fun f s => setting.put (f (setting.get s)) s

/-- What an option as the loop reads it does to the part; options of other parts do nothing. -/
def follow (setting : Setting σ) (part : setting.Part) (entry : Bytes × Option Bytes)
    : Except Stop setting.Part :=
  match setting.effect? entry.1, entry.2 with
  | none, _ => .ok part
  | some (.set f), _ => .ok (f part)
  | some (.value _), none => .ok part
  | some (.value convert), some value =>
    match convert value with
    | .error fault => .error (.fault fault)
    | .ok f => .ok (f part)

def text (names : List String) (get : σ → Bytes) (put : Bytes → σ → σ)
    (get_put : ∀ text s, get (put text s) = text := by intros; rfl)
    (put_get : ∀ s, put (get s) s = s := by intros; rfl)
    : Setting σ where
  Part := Bytes
  get := get
  put := put
  get_put := get_put
  put_get := put_get
  options := [(names.map str, .value fun value => .ok fun _ => value)]

/-- A text that the first argument that starts with no dash gives as well. -/
def textOrArgument (names : List String) (get : σ → Bytes) (put : Bytes → σ → σ)
    (get_put : ∀ text s, get (put text s) = text := by intros; rfl)
    (put_get : ∀ s, put (get s) s = s := by intros; rfl)
    : Setting σ where
  Part := Bytes
  get := get
  put := put
  get_put := get_put
  put_get := put_get
  options := [(names.map str, .value fun value => .ok fun _ => value)]
  positional := some fun arg text => if text = [] then arg else text

/-- An option whose value goes through a function of the standard library. -/
def number {α : Type} (parse : Bytes → Except StdException α) (names : List String) (get : σ → α)
    (put : α → σ → σ)
    (get_put : ∀ number s, get (put number s) = number := by intros; rfl)
    (put_get : ∀ s, put (get s) s = s := by intros; rfl)
    : Setting σ where
  Part := α
  get := get
  put := put
  get_put := get_put
  put_get := put_get
  options := [(names.map str, .value fun value => converted (parse value) fun number _ => number)]

def int (names : List String) (get : σ → Int) (put : Int → σ → σ)
    (get_put : ∀ number s, get (put number s) = number := by intros; rfl)
    (put_get : ∀ s, put (get s) s = s := by intros; rfl)
    : Setting σ :=
  number stoi names get put get_put put_get

def double (names : List String) (get : σ → Double) (put : Double → σ → σ)
    (get_put : ∀ number s, get (put number s) = number := by intros; rfl)
    (put_get : ∀ s, put (get s) s = s := by intros; rfl)
    : Setting σ :=
  number stod names get put get_put put_get

def flag (names : List String) (get : σ → Bool) (put : Bool → σ → σ) (value : Bool)
    (get_put : ∀ flag s, get (put flag s) = flag := by intros; rfl)
    (put_get : ∀ s, put (get s) s = s := by intros; rfl)
    : Setting σ where
  Part := Bool
  get := get
  put := put
  get_put := get_put
  put_get := put_get
  options := [(names.map str, .set fun _ => value)]

/-- An option whose value is converted for a member that the check does not read. -/
def unread {α : Type} (parse : Bytes → Except StdException α) (names : List String)
    : Setting σ where
  Part := Unit
  get _ := ()
  put _ s := s
  get_put _ _ := rfl
  put_get _ := rfl
  options := [(names.map str, .value fun value => converted (parse value) fun _ part => part)]

def unreadText (names : List String) : Setting σ := unread (fun value : Bytes => .ok value) names

/-- A member that no option is about. -/
def fixed {α : Type} (get : σ → α) (put : α → σ → σ)
    (get_put : ∀ part s, get (put part s) = part := by intros; rfl)
    (put_get : ∀ s, put (get s) s = s := by intros; rfl)
    : Setting σ where
  Part := α
  get := get
  put := put
  get_put := get_put
  put_get := put_get
  options := []

end Setting

def helpNames : List Bytes := [str "-h", str "--help"]

section

variable (settings : List (Setting σ))

def branchOf (arg : Bytes) : Branch σ :=
  if helpNames.contains arg then
    .help
  else
    (settings.findSome? fun setting => (setting.effect? arg).map setting.lift).getD (.set id)

end

section Reading

variable {settings : List (Setting σ)}

def Setting.read (setting : Setting σ) (entries : List (Bytes × Option Bytes))
    (part : setting.Part)
    : Except Stop setting.Part :=
  entries.foldlM setting.follow part

end Reading

section Writing

variable {branch : Bytes → Branch σ}

/-- The arguments that the loop reads as an option. -/
def words (entry : Bytes × Option Bytes) : List Bytes := entry.1 :: entry.2.toList

/-- An option that takes a value has one, and no other has. -/
def IsWhole (branch : Bytes → Branch σ) (entry : Bytes × Option Bytes) : Prop :=
  match branch entry.1 with
  | .value _ => entry.2.isSome = true
  | _ => entry.2 = none

variable {settings : List (Setting σ)}

def Setting.IsWhole (setting : Setting σ) (entry : Bytes × Option Bytes) : Prop :=
  match setting.effect? entry.1 with
  | some (.set _) => entry.2 = none
  | some (.value _) => entry.2.isSome = true
  | none => False

section

variable {setting : Setting σ} {start part : setting.Part} {name value : Bytes}
variable {m : (α : Type) × (setting.Part → α)} {f : setting.Part → setting.Part}
variable {convert : Bytes → Except Fault (setting.Part → setting.Part)}

end

theorem Setting.IsWhole.effect? {setting : Setting σ} {entry : Bytes × Option Bytes}
    (h : setting.IsWhole entry)
    : ∃ effect, setting.effect? entry.1 = some effect := by
  unfold Setting.IsWhole at h
  split at h
  . next heffect => exact ⟨_, heffect⟩
  . next heffect => exact ⟨_, heffect⟩
  . contradiction

end Writing

end CommandLine
end NetmonPlugins

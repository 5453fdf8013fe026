import NetmonPlugins.Common.Plugin

/-!
This module contains `main` of the plugins: `parseArguments` runs outside of the handlers that
`executePlugin` has around `check`. The loop over `argv` is followed to its end, whether a
conversion throws or is called outside of its precondition.
-/

namespace NetmonPlugins
namespace CommandLine

/-- What keeps the loop over `argv` from going on. -/
inductive Fault where
  | exception (e : StdException)
  -- A function was called outside of its precondition, or a signed operation overflowed.
  | precondition
  deriving DecidableEq

inductive Branch (σ : Type u) where
  -- The usage is printed and the process ends with code 0.
  | help
  | set (f : σ → σ)
  -- The next argument is converted; behind the last argument nothing happens.
  | value (convert : Bytes → Except Fault (σ → σ))

inductive Stop where
  | help
  | fault (fault : Fault)
  deriving DecidableEq

inductive Ending where
  | exit (status : Int)
  | terminate (e : StdException)
  | undefined
  deriving DecidableEq

def Fault.ending : Fault → Ending
  | .exception e => .terminate e
  | .precondition => .undefined

/-- The documented exit codes. -/
def Ending.Documented : Ending → Prop
  | .exit status => status ∈ [0, 1, 2, 3]
  | .terminate _ => False
  | .undefined => False

instance (ending : Ending) : Decidable ending.Documented := by
  unfold Ending.Documented
  split <;> infer_instance

variable {σ : Type u} (branch : Bytes → Branch σ)

def scan (s : σ) : List Bytes → Except Stop σ
  | [] => .ok s
  | [arg] =>
    match branch arg with
    | .help => .error .help
    | .set f => .ok (f s)
    | .value _ => .ok s
  | arg :: next :: rest =>
    match branch arg with
    | .help => .error .help
    | .set f => scan (f s) (next :: rest)
    | .value convert =>
      match convert next with
      | .error fault => .error (.fault fault)
      | .ok f => scan (f s) rest

def main (init : σ) (run : σ → Ending) (args : List Bytes) : Ending :=
  match scan branch init args with
  | .ok config => run config
  | .error .help => .exit 0
  | .error (.fault fault) => fault.ending

/-- The options that take a value, each with the argument in its value position. -/
def values : List Bytes → List (Bytes × Bytes)
  | [] => []
  | [_] => []
  | arg :: next :: rest =>
    match branch arg with
    | .help => []
    | .set _ => values (next :: rest)
    | .value _ => (arg, next) :: values rest

def Converts (option value : Bytes) : Prop :=
  ∀ convert, branch option = .value convert → (convert value).isOk = true

variable {branch}

theorem converts_of_value {option : Bytes} {convert : Bytes → Except Fault (σ → σ)}
    (h : branch option = .value convert) (value : Bytes)
    : Converts branch option value ↔ (convert value).isOk = true := by
  unfold Converts
  rw [h]
  simp

theorem branch_of_mem_values {args : List Bytes} {p : Bytes × Bytes} (h : p ∈ values branch args)
    : ∃ convert, branch p.1 = .value convert := by
  induction args using List.twoStepInduction with
  | nil => contradiction
  | singleton arg => contradiction
  | cons_cons arg next rest ih₂ ih₁ =>
    rw [values] at h
    split at h
    . contradiction
    . apply ih₁ _ h
    . next convert hbranch =>
      cases List.mem_cons.mp h with
      | inl h => exact ⟨convert, h ▸ hbranch⟩
      | inr h => apply ih₂ h

theorem scan_ne_fault_iff (s : σ) (args : List Bytes)
    : (∀ fault, scan branch s args ≠ .error (.fault fault))
        ↔
      ∀ p ∈ values branch args, Converts branch p.1 p.2 := by
  induction args using List.twoStepInduction generalizing s with
  | nil => simp [scan, values]
  | singleton arg =>
    simp only [scan, values]
    split <;> simp
  | cons_cons arg next rest ih₂ ih₁ =>
    simp only [scan, values]
    split
    . simp
    . apply ih₁
    . next convert hbranch =>
      rw [List.forall_mem_cons, converts_of_value hbranch]
      split
      . next fault hfault => simp [hfault, Except.isOk, Except.toBool]
      . next f hf =>
        rw [ih₂]
        simp [hf, Except.isOk, Except.toBool]

theorem scan_of_set {arg : Bytes} {f : σ → σ} (h : branch arg = .set f) (s : σ)
    (rest : List Bytes)
    : scan branch s (arg :: rest) = scan branch (f s) rest := by
  cases rest with
  | nil => simp [scan, h]
  | cons next rest => simp [scan, h]

theorem scan_invariant (inv : List Bytes → σ → Prop)
    (hset : ∀ before arg f s, branch arg = .set f → inv before s → inv (before ++ [arg]) (f s))
    (hvalue : ∀ before arg convert next f s, branch arg = .value convert → convert next = .ok f
      → inv before s → inv (before ++ [arg, next]) (f s))
    (hlast : ∀ before arg s, inv before s → inv (before ++ [arg]) s)
    {before args : List Bytes} {s s' : σ} (hinit : inv before s)
    (h : scan branch s args = .ok s')
    : inv (before ++ args) s' := by
  induction args using List.twoStepInduction generalizing before s with
  | nil =>
    rw [scan, Except.ok.injEq] at h
    rw [← h, List.append_nil]
    exact hinit
  | singleton arg =>
    rw [scan] at h
    split at h
    . contradiction
    . next f hbranch =>
      rw [Except.ok.injEq] at h
      rw [← h]
      apply hset _ _ _ _ hbranch hinit
    . next hbranch =>
      rw [Except.ok.injEq] at h
      rw [← h]
      apply hlast _ _ _ hinit
  | cons_cons arg next rest ih₂ ih₁ =>
    rw [scan] at h
    split at h
    . contradiction
    . next f hbranch =>
      rw [List.append_cons]
      apply ih₁
      . apply hset _ _ _ _ hbranch hinit
      . exact h
    . next convert hbranch =>
      split at h
      . contradiction
      . next f hconvert =>
        have hassoc : before ++ arg :: next :: rest = (before ++ [arg, next]) ++ rest := by simp
        rw [hassoc]
        apply ih₂
        . apply hvalue _ _ _ _ _ _ hbranch hconvert hinit
        . exact h

theorem not_documented_ending (fault : Fault) : ¬ fault.ending.Documented := by
  cases fault <;> exact id

theorem documented_main_iff (init : σ) (run : σ → Ending) (args : List Bytes)
    : (main branch init run args).Documented
        ↔
      (∀ p ∈ values branch args, Converts branch p.1 p.2)
        ∧ ∀ config, scan branch init args = .ok config → (run config).Documented := by
  rw [← scan_ne_fault_iff init]
  unfold main
  split
  . next config hscan => simp [hscan]
  . next hscan =>
    simp only [hscan]
    simp [Ending.Documented]
  . next fault hscan =>
    simp [hscan, not_documented_ending]

/-- A conversion of the standard library, whose exceptions nobody catches. -/
def converted (value : Except StdException α) (store : α → σ → σ) : Except Fault (σ → σ) :=
  match value with
  | .ok a => .ok (store a)
  | .error e => .error (.exception e)

theorem isOk_converted (value : Except StdException α) (store : α → σ → σ)
    : (converted value store).isOk = value.isOk := by
  cases value <;> rfl

section Entries

variable (branch)

/-- The options as the loop reads them; an option without a value has none behind it. -/
def entries : List Bytes → List (Bytes × Option Bytes)
  | [] => []
  | [arg] => [(arg, none)]
  | arg :: next :: rest =>
    match branch arg with
    | .value _ => (arg, some next) :: entries rest
    | _ => (arg, none) :: entries (next :: rest)

def follow (s : σ) (entry : Bytes × Option Bytes) : Except Stop σ :=
  match branch entry.1, entry.2 with
  | .help, _ => .error .help
  | .set f, _ => .ok (f s)
  | .value _, none => .ok s
  | .value convert, some value =>
    match convert value with
    | .error fault => .error (.fault fault)
    | .ok f => .ok (f s)

theorem scan_eq_foldlM (s : σ) (args : List Bytes)
    : scan branch s args = (entries branch args).foldlM (follow branch) s := by
  induction args using List.twoStepInduction generalizing s with
  | nil => rfl
  | singleton arg =>
    rw [scan, entries, List.foldlM_cons, follow]
    cases branch arg <;> rfl
  | cons_cons arg next rest ih₂ ih₁ =>
    rw [scan, entries]
    cases hbranch : branch arg with
    | help => simp [follow, hbranch, bind, Except.bind]
    | set f => simp [follow, hbranch, bind, Except.bind, ih₁]
    | value convert =>
      simp only [List.foldlM_cons, follow, hbranch]
      cases convert next with
      | error fault => rfl
      | ok f => exact ih₂ (f s)

end Entries

section Keeps

variable {α β : Type u} {ε : Type v} {read : σ → γ}

theorem eq_ok_of_bind {x : Except ε α} {f : α → Except ε β} {b : β} (h : x >>= f = .ok b)
    : ∃ a, x = .ok a ∧ f a = .ok b := by
  cases x with
  | error e => contradiction
  | ok a => exact ⟨a, rfl, h⟩

/-- What the option does keeps what is read of the configuration. -/
def Keeps (read : σ → γ) : Branch σ → Prop
  | .help => True
  | .set f => ∀ s, read (f s) = read s
  | .value convert => ∀ value f, convert value = .ok f → ∀ s, read (f s) = read s

theorem converted_eq_ok {value : Except StdException δ} {store : δ → σ → σ} {f : σ → σ}
    (h : converted value store = .ok f)
    : ∃ a, value = .ok a ∧ store a = f := by
  cases value with
  | error e => contradiction
  | ok a => exact ⟨a, rfl, Except.ok.inj h⟩

theorem keeps_converted {parse : Bytes → Except StdException δ} {store : δ → σ → σ}
    (h : ∀ a s, read (store a s) = read s)
    : Keeps read (.value fun value => converted (parse value) store) := by
  intro value f hf s
  obtain ⟨a, -, rfl⟩ := converted_eq_ok hf
  exact h a s

theorem follow_converted {option value : Bytes} {parse : Bytes → Except StdException δ}
    {store : δ → σ → σ}
    (hbranch : branch option = .value fun value => converted (parse value) store) {s s' : σ}
    (h : follow branch s (option, some value) = .ok s')
    : ∃ a, parse value = .ok a ∧ store a s = s' := by
  unfold follow at h
  simp only [hbranch] at h
  cases hparse : parse value with
  | error e => simp [hparse, converted] at h
  | ok a =>
    simp only [hparse, converted, Except.ok.injEq] at h
    exact ⟨a, rfl, h⟩

theorem read_follow_of_keeps {entry : Bytes × Option Bytes} (hkeeps : Keeps read (branch entry.1))
    {s s' : σ} (h : follow branch s entry = .ok s')
    : read s' = read s := by
  unfold follow at h
  cases hbranch : branch entry.1 with
  | help => simp [hbranch] at h
  | set f =>
    rw [hbranch] at hkeeps
    simp only [hbranch, Except.ok.injEq] at h
    rw [← h, hkeeps]
  | value convert =>
    rw [hbranch] at hkeeps
    cases hvalue : entry.2 with
    | none =>
      simp only [hbranch, hvalue, Except.ok.injEq] at h
      rw [h]
    | some value =>
      simp only [hbranch, hvalue] at h
      cases hconvert : convert value with
      | error fault => simp [hconvert] at h
      | ok f =>
        simp only [hconvert, Except.ok.injEq] at h
        rw [← h, hkeeps value f hconvert]

theorem read_foldlM_of_keeps {entries : List (Bytes × Option Bytes)}
    (hkeeps : ∀ entry ∈ entries, Keeps read (branch entry.1)) {s s' : σ}
    (h : entries.foldlM (follow branch) s = .ok s')
    : read s' = read s := by
  induction entries generalizing s with
  | nil =>
    have heq : s = s' := Except.ok.inj h
    rw [heq]
  | cons entry entries ih =>
    rw [List.forall_mem_cons] at hkeeps
    rw [List.foldlM_cons] at h
    obtain ⟨next, hstep, hrest⟩ := eq_ok_of_bind h
    rw [ih hkeeps.2 hrest, read_follow_of_keeps hkeeps.1 hstep]

end Keeps

end CommandLine

theorem documented_executePlugin (check : Except StdException PluginResult)
    : (CommandLine.Ending.exit (executePlugin check).2).Documented := by
  unfold executePlugin
  split
  . next result =>
    show result.code.toInt ∈ [0, 1, 2, 3]
    cases result.code <;> decide
  . decide

end NetmonPlugins

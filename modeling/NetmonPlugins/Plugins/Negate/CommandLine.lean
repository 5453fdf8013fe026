import NetmonPlugins.Plugins.Negate.Arguments
import NetmonPlugins.Plugins.Negate.Impl
import NetmonPlugins.Posix.Words

/-!
This module determines which commands the shell behind `system` reads back from the text that
`check_negate` hands to it, and what comes back through a `check_negate` that wraps a
`check_negate`, and so on up to another program: each of them hands a text to a shell, which starts
the next one.
-/

namespace NetmonPlugins
namespace NegatePlugin

open Shell

theorem cmdLine_eq (config : Config) : cmdLine config = joinWords config.command config.args := by
  unfold cmdLine joinWords
  generalize config.command = command
  induction config.args generalizing command with
  | nil => simp
  | cons arg args ih =>
    rw [List.foldl_cons, ih, List.flatMap_cons]
    simp [str]

theorem notMem_joinWords {word : Bytes} {words : List Bytes} {b : UInt8} (hb : b ≠ 32)
    (h : ∀ text ∈ word :: words, b ∉ text)
    : b ∉ joinWords word words := by
  unfold joinWords
  rw [List.mem_append, List.mem_flatMap, not_or]
  constructor
  . apply h word List.mem_cons_self
  . intro hmem
    obtain ⟨text, htext, hbtext⟩ := hmem
    rw [List.mem_cons] at hbtext
    cases hbtext with
    | inl heq => exact hb heq
    | inr hin => exact h text (List.mem_cons_of_mem _ htext) hin

/--
The shell reads the command and its arguments back if and only if all of them are plain words and
the first one names a command. Without a command nothing is handed to it.
-/
theorem simpleCommand_cmdLine_iff (config : Config)
    (hnul : ∀ text ∈ config.command :: config.args, 0 ∉ text)
    : (config.command ≠ []
          → simpleCommand (cstr (cmdLine config)) = some (config.command :: config.args))
        ↔
      config.command = []
        ∨ NamesCommand config.command ∧ ∀ text ∈ config.command :: config.args, Plain text := by
  have hcstr : cstr (cmdLine config) = joinWords config.command config.args := by
    rw [cmdLine_eq, cstr_of_notMem]
    apply notMem_joinWords (by decide) hnul
  rw [hcstr, simpleCommand_joinWords_iff]
  by_cases hcommand : config.command = []
  . simp [hcommand]
  . simp [hcommand]

theorem simpleCommand_cmdLine_dummy
    : simpleCommand (cstr (cmdLine { command := str "check_dummy", args := [str "--ok"] }))
        = some [str "check_dummy", str "--ok"] := by
  apply (simpleCommand_cmdLine_iff { command := str "check_dummy", args := [str "--ok"] }
    (by decide)).mpr
  . right
    decide
  . decide

theorem simpleCommand_cmdLine_message
    : simpleCommand (cstr (cmdLine { command := str "check_dummy", args := [str "all well"] }))
          = some [str "check_dummy", str "all", str "well"]
        ∧
      simpleCommand (cstr (cmdLine { command := str "check_dummy", args := [str "a;reboot"] }))
          = none := by
  decide

open CommandLine

def exitCode (status : Int) : Int := if wifexited status then wexitstatus status else 3

/--
The statuses that `system` may return for a text that the shell reads as these fields, where
`check_negate` is installed at `path` and `programs` says it for the other programs. About a text
that is no simple command nothing is known.
-/
inductive Returns (path : Bytes) (programs : List Bytes → Int → Prop) : List Bytes → Int → Prop where
  | program {argv : List Bytes} {status : Int} (hother : argv.head? ≠ some path)
      (h : programs argv status)
      : Returns path programs argv status
  | negate {args : List Bytes} {config : Config} {system : Bytes → Int}
      (hargs : parseArguments args = .ok config)
      (hsystem : ∀ argv, simpleCommand (cstr (cmdLine config)) = some argv
        → Returns path programs argv (system (cstr (cmdLine config))))
      : Returns path programs (path :: args) (256 * (executePlugin (.ok (check system config))).2)
  | help {args : List Bytes} (hargs : parseArguments args = .error .help)
      : Returns path programs (path :: args) 0

/-- A word that reaches the program it is meant for. -/
structure Passes (word : Bytes) : Prop where
  plain : Plain word
  nul_notMem : 0 ∉ word
  not_option : isOption word = false

instance : DecidablePred Passes := fun word =>
  decidable_of_iff (Plain word ∧ 0 ∉ word ∧ isOption word = false)
    ⟨fun ⟨hplain, hnul, hoption⟩ => ⟨hplain, hnul, hoption⟩,
      fun ⟨hplain, hnul, hoption⟩ => ⟨hplain, hnul, hoption⟩⟩

theorem exitCode_code (code : ExitCode) : exitCode (256 * code.toInt) = code.toInt := by
  cases code <;> decide

theorem parseArguments_of_passes {word : Bytes} {words : List Bytes}
    (h : ∀ text ∈ word :: words, Passes text)
    : parseArguments (word :: words)
        =
      .ok { command := word, args := words, inCommand := true } := by
  rw [List.forall_mem_cons] at h
  unfold parseArguments
  rw [scan_of_set (branch_of_not_isOption h.1.not_option)]
  exact scan_of_forall_not_isOption words { command := word, inCommand := true } rfl
    fun text htext => (h.2 text htext).not_option

theorem simpleCommand_of_passes {word : Bytes} {words : List Bytes} (hname : NamesCommand word)
    (h : ∀ text ∈ word :: words, Passes text)
    : simpleCommand (cstr (cmdLine { command := word, args := words, inCommand := true }))
        =
      some (word :: words) := by
  rw [cmdLine_eq, cstr_of_notMem]
  . rw [simpleCommand_joinWords_iff]
    exact ⟨hname, fun text htext => (h text htext).plain⟩
  . exact notMem_joinWords (by decide) fun text htext => (h text htext).nul_notMem

variable {path word : Bytes} {words : List Bytes} {programs : List Bytes → Int → Prop}

theorem returns_program_iff (hother : word ≠ path) (status : Int)
    : Returns path programs (word :: words) status ↔ programs (word :: words) status := by
  constructor
  . intro h
    cases h with
    | program _ h => exact h
    | negate => contradiction
    | help => contradiction
  . intro h
    apply Returns.program _ h
    simpa using hother

theorem returns_negate_iff (hname : NamesCommand word) (h : ∀ text ∈ word :: words, Passes text)
    (status : Int)
    : Returns path programs (path :: word :: words) status
        ↔
      ∃ inner, Returns path programs (word :: words) inner
        ∧ status = 256 * (invertExitCode (exitCode inner)).toInt := by
  have hword : word ≠ [] := by
    rintro rfl
    exact (h [] List.mem_cons_self).plain.ordinary.ne_nil rfl
  constructor
  . intro hreturns
    generalize hargv : path :: word :: words = argv at hreturns
    cases hreturns with
    | program hother hprogram =>
      rw [← hargv] at hother
      contradiction
    | @negate args config system hargs hsystem =>
      rw [List.cons.injEq] at hargv
      rw [← hargv.2, parseArguments_of_passes h, Except.ok.injEq] at hargs
      subst hargs
      refine ⟨_, hsystem _ (simpleCommand_of_passes hname h), ?_⟩
      simp only [executePlugin, check, hword, ↓reduceIte]
      rfl
    | @help args hargs =>
      rw [List.cons.injEq] at hargv
      rw [← hargv.2, parseArguments_of_passes h] at hargs
      contradiction
  . rintro ⟨inner, hinner, rfl⟩
    have hnegate : Returns path programs (path :: word :: words) (256 * (executePlugin (.ok
        (check (fun _ => inner) { command := word, args := words, inCommand := true }))).2) := by
      apply Returns.negate (parseArguments_of_passes h)
      intro argv hargv
      rw [simpleCommand_of_passes hname h, Option.some.injEq] at hargv
      rwa [← hargv]
    simp only [executePlugin, check, hword, ↓reduceIte] at hnegate
    exact hnegate

theorem invertExitCode_three (code : Int)
    : invertExitCode (invertExitCode (invertExitCode code).toInt).toInt = invertExitCode code := by
  unfold invertExitCode
  grind [ExitCode.toInt]

/-- What is left of a code behind one `check_negate` and `n` more around it. -/
def inverted (code : Int) (n : Nat) : ExitCode :=
  if n % 2 = 0 then invertExitCode code else invertExitCode (invertExitCode code).toInt

theorem inverted_succ (code : Int) (n : Nat)
    : inverted code (n + 1) = invertExitCode (inverted code n).toInt := by
  unfold inverted
  by_cases hn : n % 2 = 0
  . rw [if_pos hn, if_neg (by omega)]
  . rw [if_neg hn, if_pos (by omega), invertExitCode_three]

/--
Two inversions are none for a documented code, however many processes and shells are between; a
code that is none of them, or a process that is killed, is unknown from the first one on.
-/
theorem nested_returns_iff (hpath : NamesCommand path) (hpasses : Passes path)
    (hname : NamesCommand word) (h : ∀ text ∈ word :: words, Passes text) (hother : word ≠ path)
    (n : Nat) (status : Int)
    : Returns path programs (List.replicate (n + 1) path ++ word :: words) status
        ↔
      ∃ inner, programs (word :: words) inner
        ∧ status = 256 * (inverted (exitCode inner) n).toInt := by
  induction n generalizing status with
  | zero =>
    show Returns path programs (path :: word :: words) status ↔ _
    rw [returns_negate_iff hname h]
    simp only [returns_program_iff hother]
    rfl
  | succ n ih =>
    have hwords : ∀ text ∈ path :: (List.replicate n path ++ word :: words), Passes text := by
      rw [List.forall_mem_cons]
      refine ⟨hpasses, ?_⟩
      intro text htext
      rcases List.mem_append.mp htext with hwrapper | hinner
      . rw [List.eq_of_mem_replicate hwrapper]
        exact hpasses
      . exact h text hinner
    show Returns path programs (path :: path :: (List.replicate n path ++ word :: words)) status ↔ _
    rw [returns_negate_iff hpath hwords]
    constructor
    . rintro ⟨outer, houter, rfl⟩
      obtain ⟨inner, hinner, rfl⟩ := (ih outer).mp houter
      refine ⟨inner, hinner, ?_⟩
      rw [exitCode_code, inverted_succ]
    . rintro ⟨inner, hinner, rfl⟩
      refine ⟨_, (ih _).mpr ⟨inner, hinner, rfl⟩, ?_⟩
      rw [exitCode_code, inverted_succ]

theorem nested_returns_load
    : Returns (str "check_negate") (fun _ status => status = 512)
        [str "check_negate", str "check_negate", str "check_load", str "-w", str "5"] 512 := by
  have hiff : Returns (str "check_negate") (fun _ status => status = 512)
        (List.replicate (1 + 1) (str "check_negate") ++ str "check_load" :: [str "-w", str "5"]) 512
      ↔ ∃ inner, inner = 512 ∧ 512 = 256 * (inverted (exitCode inner) 1).toInt :=
    nested_returns_iff (by decide) (by decide) (by decide) (by decide) (by decide) 1 512
  exact hiff.mpr ⟨512, rfl, by decide⟩

end NegatePlugin
end NetmonPlugins

import NetmonPlugins.Net.Transcript
import NetmonPlugins.Plugins.LineChecks.Verdict

/-!
This module contains the runs of `check_pop`, `check_imap`, `check_nntp` and `check_ircd` against
servers whose replies the network cuts into segments.
-/

namespace NetmonPlugins

open Dialogue

inductive LineCheck where
  | pop (sslEnabled : Bool) (config : PopPlugin.Config)
  | imap (sslEnabled : Bool) (config : ImapPlugin.Config)
  | nntp (config : NntpPlugin.Config)
  | ircd (config : IrcdPlugin.Config)

namespace LineCheck

def check : LineCheck → Dialogue PluginResult
  | .pop sslEnabled config => PopPlugin.check sslEnabled true config
  | .imap sslEnabled config => ImapPlugin.check sslEnabled true config
  | .nntp config => NntpPlugin.check true config
  | .ircd config => IrcdPlugin.check true config

def hostname : LineCheck → Bytes
  | .pop _ config => config.hostname
  | .imap _ config => config.hostname
  | .nntp config => config.hostname
  | .ircd config => config.hostname

def tests : LineCheck → List (Bytes → Bool)
  | .pop _ config => PopPlugin.tests config.username config.password
  | .imap _ config => ImapPlugin.tests config.username config.password
  | .nntp config => NntpPlugin.tests config.username config.password
  | .ircd _ => IrcdPlugin.tests

/-- An IRC server answers the registration, which is NICK and USER together. -/
def prompts : LineCheck → Bytes → Bool
  | .ircd _, message => !(str "NICK ").isPrefixOf message
  | _, _ => true

def server (c : LineCheck) (lines : List Line) : Peer :=
  transcript c.prompts (lines.map (·.bytes))

/-- The texts that the receives of the run make of the stream of replies. -/
def pieces (lines : List Line) (actions : List Action) : List Bytes :=
  (cut (sizes actions) (lines.map (·.bytes)).flatten).map cstr

def Passes (c : LineCheck) (texts : List Bytes) : Prop :=
  ∀ k, (hk : k < c.tests.length) → c.tests[k] (texts.getD k []) = true

instance (c : LineCheck) (texts : List Bytes) : Decidable (c.Passes texts) :=
  inferInstanceAs (Decidable (∀ k, (hk : k < c.tests.length) → _))

def service : LineCheck → Bytes
  | .pop _ _ => str "POP3"
  | .imap _ _ => str "IMAP"
  | .nntp _ => str "NNTP"
  | .ircd _ => str "IRC"

def port : LineCheck → Int
  | .pop sslEnabled config => config.effectivePort sslEnabled
  | .imap sslEnabled config => config.effectivePort sslEnabled
  | .nntp config => config.port
  | .ircd config => config.port

def dialogue : LineCheck → Dialogue Bool
  | .pop _ config => PopPlugin.checkPop true config.username config.password
  | .imap _ config => ImapPlugin.checkImap true config.username config.password
  | .nntp config => NntpPlugin.checkNntp true config.username config.password
  | .ircd config => IrcdPlugin.checkIrcd true config.nickname

theorem check_eq (c : LineCheck)
    : c.check = checkService c.service c.hostname c.port c.dialogue := by
  cases c <;> rfl

theorem play_dialogue (c : LineCheck) (responses : List Bytes)
    : c.dialogue.play [] responses = accepts c.tests responses := by
  cases c with
  | pop sslEnabled config => apply PopPlugin.play_checkPop
  | imap sslEnabled config => apply ImapPlugin.play_checkImap
  | nntp config => apply NntpPlugin.play_checkNntp
  | ircd config => apply IrcdPlugin.play_checkIrcd

theorem once_dialogue (c : LineCheck) : c.dialogue.Once := by
  cases c with
  | pop sslEnabled config =>
    simp [dialogue, PopPlugin.checkPop, readResponse, sendCommand, Once]
  | imap sslEnabled config =>
    simp [dialogue, ImapPlugin.checkImap, readResponse, sendCommand, Once]
  | nntp config =>
    simp [dialogue, NntpPlugin.checkNntp, readResponse, sendCommand, Once]
  | ircd config =>
    simp [dialogue, IrcdPlugin.checkIrcd, readResponse, sendCommand, Once]

theorem play_check (c : LineCheck) (responses : List Bytes)
    : c.check.play [] responses
        =
      if c.hostname = [] then
        hostnameMissing
      else
        availability c.service c.hostname c.port (str "accepting connections")
          (accepts c.tests responses) := by
  rw [check_eq, checkService]
  split
  . rfl
  . simp only [pure_eq_done]
    rw [play_map, play_dialogue]

theorem once_check (c : LineCheck) : c.check.Once := by
  rw [check_eq, checkService, once_ite]
  constructor
  . intro _
    trivial
  . intro _
    apply (once_dialogue c).bind
    intro available
    trivial

theorem availability_injective (service hostname : Bytes) (port : Int) (doing : Bytes)
    (available available' : Bool)
    : availability service hostname port doing available
          = availability service hostname port doing available'
        ↔
      available = available' := by
  constructor
  . intro h
    have hcode := congrArg PluginResult.code h
    cases available <;> cases available' <;> simp_all [availability]
  . intro h
    rw [h]

theorem play_pieces {c : LineCheck} {lines : List Line} {actions : List Action}
    {result : PluginResult}
    (hprompt : Obeys (step (c.server lines)) Prompt (start (c.server lines) c.check) actions)
    (hrun : outcome (c.server lines) c.check actions = some result)
    : result = c.check.play [] (pieces lines actions) := by
  rw [outcome_eq_some_iff] at hrun
  obtain ⟨s, hexec, hdone⟩ := hrun
  have hreach := Reaches.of_obeys actions hprompt .refl hexec
  rw [← play_of_prompt hreach hdone, pieces]
  rw [responses_of_exec (once_check c) hexec]

theorem segmentation_iff (c : LineCheck) (lines : List Line) (actions : List Action)
    (result : PluginResult)
    (hprompt : Obeys (step (c.server lines)) Prompt (start (c.server lines) c.check) actions)
    (hrun : outcome (c.server lines) c.check actions = some result)
    : result = c.check.play [] (received lines)
        ↔
      c.hostname = [] ∨ (c.Passes (pieces lines actions) ↔ c.Passes (received lines)) := by
  unfold Passes
  rw [← accepts_eq_true_iff, ← accepts_eq_true_iff, play_pieces hprompt hrun, play_check,
    play_check]
  split
  . next hhost => simp [hhost]
  . next hhost =>
    rw [availability_injective, Bool.eq_iff_iff]
    simp [hhost]

/-- Where each receive takes one reply as a whole, the verdict is that of the replies. -/
theorem eq_play_of_whole {c : LineCheck} {lines : List Line} {actions : List Action}
    {result : PluginResult}
    (hprompt : Obeys (step (c.server lines)) Prompt (start (c.server lines) c.check) actions)
    (hrun : outcome (c.server lines) c.check actions = some result)
    (hwhole : sizes actions <+: lines.map fun line => line.bytes.length)
    : result = c.check.play [] (received lines) := by
  rw [outcome_eq_some_iff] at hrun
  obtain ⟨s, hexec, hdone⟩ := hrun
  have hreach := Reaches.of_obeys actions hprompt .refl hexec
  have hlengths : sizes actions <+: (lines.map (·.bytes)).map List.length := by
    rwa [List.map_map]
  have hresponses : s.responses = (received lines).take (sizes actions).length := by
    rw [responses_of_exec (once_check c) hexec, cut_of_isPrefix_lengths hlengths, received,
      ← List.map_take, ← List.map_take, List.map_map]
    rfl
  rw [← play_append_of_prompt hreach hdone ((received lines).drop (sizes actions).length),
    hresponses, List.take_append_drop]

def ready : Line where
  text := str "+OK ready"
  newline_notMem := by decide
  length_le := by decide

def popCheck : LineCheck := .pop false { hostname := str "mx" }

theorem segmentation_of_statusWhole
    : ∃ result,
        outcome (popCheck.server [ready]) popCheck.check [.deliver 4] = some result
          ∧ result = popCheck.check.play [] (received [ready]) := by
  have hrun : outcome (popCheck.server [ready]) popCheck.check [.deliver 4]
      = some (popCheck.check.play [] (received [ready])) := by decide +kernel
  refine ⟨_, hrun, ?_⟩
  apply (segmentation_iff popCheck [ready] [.deliver 4] _ _ hrun).mpr
  . exact .inr (by decide +kernel)
  . exact ⟨trivial, trivial⟩

/-- The greeting arrives as `+` and `OK ready`. -/
theorem segmentation_of_statusCut
    : outcome (popCheck.server [ready]) popCheck.check [.deliver 1]
          = some (availability (str "POP3") (str "mx") 110 (str "accepting connections") false)
        ∧ popCheck.check.play [] (received [ready])
          = availability (str "POP3") (str "mx") 110 (str "accepting connections") true := by
  decide +kernel

end LineCheck
end NetmonPlugins

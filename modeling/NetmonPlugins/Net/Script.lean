import Mathlib.Data.List.Forall2
import NetmonPlugins.Net.Transcript

/-!
This module contains what a protocol says about a conversation: a script lists the messages of the
client and the tests that the responses between them have to pass, and a protocol is a choice of
scripts. A client that keeps to a protocol follows one of its scripts in every state of every run,
and where its result is a good one, all tests of a script were passed by pieces of what the peer
has said, in their order.
-/

namespace NetmonPlugins

inductive Event where
  | say (message : Bytes)
  | hear (test : Bytes → Bool)

abbrev Script := List Event

namespace Script

def messages (script : Script) : List Bytes :=
  script.filterMap fun
    | .say message => some message
    | .hear _ => none

def tests (script : Script) : List (Bytes → Bool) :=
  script.filterMap fun
    | .say _ => none
    | .hear test => some test

/--
The messages that were heard are those of the first part of the script, and the first responses
pass the tests of that part, one after the other.
-/
def Follows (script : Script) (heard responses : List Bytes) : Prop :=
  ∃ (past : Script) (answers : List Bytes), past <+: script ∧ heard = past.messages
    ∧ answers <+: responses
    ∧ List.Forall₂ (fun test response => test response = true) past.tests answers

/-- Where a response is missing, the test is made of the empty text. -/
def Passed : List (Bytes → Bool) → List Bytes → Prop
  | [], _ => True
  | test :: tests, responses => test (responses.headD []) = true ∧ Passed tests responses.tail

/-- Pieces of the stream pass the tests up to their first NUL, each behind the one before. -/
def Evidence : List (Bytes → Bool) → Bytes → Prop
  | [], _ => True
  | test :: tests, stream =>
    ∃ skipped piece rest, stream = skipped ++ (piece ++ rest) ∧ test (cstr piece) = true
      ∧ Evidence tests rest

/-- What is left to hear where a message could not be sent. -/
def muted (script : Script) : Script :=
  script.filter fun
    | .say _ => false
    | .hear _ => true

/-- The script has nothing left but messages, and those are not said any more. -/
def over? (script : Script) : Option Script := if script.tests.isEmpty then some [] else none

def say? (message : Bytes) : Script → Option Script
  | .say message' :: script => if message = message' then some script else none
  | _ => none

def hear? (response : Bytes) : Script → Option Script
  | .hear test :: script => if test response then some script else none
  | script => script.over?

theorem follows_nil (script : Script) (responses : List Bytes) : Follows script [] responses :=
  ⟨[], [], List.nil_prefix, rfl, List.nil_prefix, .nil⟩

variable {script rest : Script} {heard responses : List Bytes} {message response : Bytes}

theorem Follows.eq_nil (h : Follows [] heard responses) : heard = [] := by
  obtain ⟨past, answers, hpast, hheard, -⟩ := h
  rw [hheard, List.prefix_nil.mp hpast]
  rfl

theorem Follows.say (h : Follows script heard responses)
    : Follows (.say message :: script) (message :: heard) responses := by
  obtain ⟨past, answers, hpast, hheard, hanswers, htests⟩ := h
  refine ⟨.say message :: past, answers, ?_, ?_, hanswers, htests⟩
  . rw [List.cons_prefix_cons]
    exact ⟨rfl, hpast⟩
  . rw [hheard]
    rfl

theorem Follows.hear {test : Bytes → Bool} (h : Follows script heard responses)
    (hpass : test response = true)
    : Follows (.hear test :: script) heard (response :: responses) := by
  obtain ⟨past, answers, hpast, hheard, hanswers, htests⟩ := h
  refine ⟨.hear test :: past, response :: answers, ?_, hheard, ?_, .cons hpass htests⟩
  . rw [List.cons_prefix_cons]
    exact ⟨rfl, hpast⟩
  . rw [List.cons_prefix_cons]
    exact ⟨rfl, hanswers⟩

theorem tests_muted (script : Script) : script.muted.tests = script.tests := by
  induction script with
  | nil => rfl
  | cons event script ih =>
    cases event with
    | say message => exact ih
    | hear test => exact congrArg (test :: ·) ih

theorem messages_of_prefix_muted {past : Script} (h : past <+: script.muted)
    : past.messages = [] := by
  unfold messages
  rw [List.filterMap_eq_nil_iff]
  intro event hevent
  have hmuted := (List.mem_filter.mp (h.subset hevent)).2
  cases event with
  | say message => contradiction
  | hear test => rfl

theorem Follows.eq_nil_of_muted (h : Follows script.muted heard responses) : heard = [] := by
  obtain ⟨past, answers, hpast, hheard, -⟩ := h
  rw [hheard, messages_of_prefix_muted hpast]

theorem eq_of_over? (h : script.over? = some rest) : rest = [] ∧ script.tests = [] := by
  unfold over? at h
  split at h
  . next hempty =>
    rw [Option.some.injEq] at h
    exact ⟨h.symm, List.isEmpty_iff.mp hempty⟩
  . contradiction

theorem eq_of_say? (h : script.say? message = some rest) : script = .say message :: rest := by
  unfold say? at h
  split at h
  . split at h
    . next hmessage =>
      rw [Option.some.injEq] at h
      rw [hmessage, h]
    . contradiction
  . contradiction

theorem of_hear? (h : script.hear? response = some rest)
    : (∃ test, script = .hear test :: rest ∧ test response = true)
        ∨
      rest = [] ∧ script.tests = [] := by
  unfold hear? at h
  split at h
  . next test script' =>
    split at h
    . next htest =>
      rw [Option.some.injEq] at h
      exact .inl ⟨test, by rw [h], htest⟩
    . contradiction
  . exact .inr (eq_of_over? h)

theorem evidence_of_passed (tests : List (Bytes → Bool)) (sizes : List Nat) (stream : Bytes)
    (h : Passed tests ((cut sizes stream).map cstr))
    : Evidence tests stream := by
  induction tests generalizing sizes stream with
  | nil => trivial
  | cons test tests ih =>
    cases sizes with
    | nil => exact ⟨[], [], stream, rfl, h.1, ih [] stream h.2⟩
    | cons n sizes =>
      refine ⟨[], stream.take n, stream.drop n, ?_, h.1, ih sizes _ h.2⟩
      rw [List.nil_append, List.take_append_drop]

end Script

namespace Dialogue

/--
Nothing is said that no script says next, and the result is no good one while each of the scripts
has a test left. A script is dropped with the first response that fails its test.
-/
def Keeps (good : β → Prop) : Dialogue β → List Script → Prop
  | .done result, scripts => good result → ∃ script ∈ scripts, script.tests = []
  | .send message next, scripts =>
    let rest := scripts.filterMap (Script.say? message)
    rest ≠ [] ∧ (next true).Keeps good rest ∧ (next false).Keeps good (rest.map Script.muted)
  | .read _ _ _ next, scripts =>
    ∀ response, (next response).Keeps good (scripts.filterMap (Script.hear? response))

variable {good : β → Prop} {client : Dialogue β} {scripts : List Script}

theorem Keeps.follows (h : client.Keeps good scripts) (fates : List Bool) (responses : List Bytes)
    : client.sent fates responses = []
        ∨
      ∃ script ∈ scripts, script.Follows (client.sent fates responses) responses := by
  induction client generalizing scripts fates responses with
  | done result => exact .inl rfl
  | send message next ih =>
    obtain ⟨hne, htrue, hfalse⟩ := h
    cases fates with
    | nil => exact .inl rfl
    | cons ok fates =>
      cases ok with
      | true =>
        right
        have hscript : ∃ script ∈ scripts.filterMap (Script.say? message),
            script.Follows ((next true).sent fates responses) responses := by
          rcases ih true htrue fates responses with hsilent | hscript
          . obtain ⟨script, hscript⟩ := List.exists_mem_of_ne_nil _ hne
            rw [hsilent]
            exact ⟨script, hscript, Script.follows_nil _ _⟩
          . exact hscript
        obtain ⟨rest, hrest, hfollows⟩ := hscript
        obtain ⟨script, hscript, hsay⟩ := List.mem_filterMap.mp hrest
        refine ⟨script, hscript, ?_⟩
        rw [Script.eq_of_say? hsay]
        exact hfollows.say
      | false =>
        left
        rcases ih false hfalse fates responses with hsilent | ⟨rest, hrest, hfollows⟩
        . exact hsilent
        . obtain ⟨_, _, rfl⟩ := List.mem_map.mp hrest
          exact hfollows.eq_nil_of_muted
  | read size enough response next ih =>
    cases responses with
    | nil => exact .inl rfl
    | cons response responses =>
      rcases ih response (h response) fates responses with hsilent | ⟨rest, hrest, hfollows⟩
      . exact .inl hsilent
      . obtain ⟨script, hscript, hhear⟩ := List.mem_filterMap.mp hrest
        rcases Script.of_hear? hhear with ⟨test, rfl, htest⟩ | ⟨rfl, -⟩
        . exact .inr ⟨_, hscript, hfollows.hear htest⟩
        . exact .inl hfollows.eq_nil

theorem Keeps.passed (h : client.Keeps good scripts) (fates : List Bool) (responses : List Bytes)
    (hgood : good (client.play fates responses))
    : ∃ script ∈ scripts, Script.Passed script.tests responses := by
  induction client generalizing scripts fates responses with
  | done result =>
    obtain ⟨script, hscript, htests⟩ := h hgood
    refine ⟨script, hscript, ?_⟩
    rw [htests]
    trivial
  | send message next ih =>
    obtain ⟨_, htrue, hfalse⟩ := h
    have hsent : (∃ fates', good ((next true).play fates' responses))
        ∨ ∃ fates', good ((next false).play fates' responses) := by
      cases fates with
      | nil => exact .inl ⟨[], hgood⟩
      | cons ok fates =>
        cases ok with
        | true => exact .inl ⟨fates, hgood⟩
        | false => exact .inr ⟨fates, hgood⟩
    rcases hsent with ⟨fates', hgood'⟩ | ⟨fates', hgood'⟩
    . obtain ⟨rest, hrest, hpassed⟩ := ih true htrue fates' responses hgood'
      obtain ⟨script, hscript, hsay⟩ := List.mem_filterMap.mp hrest
      refine ⟨script, hscript, ?_⟩
      rw [Script.eq_of_say? hsay]
      exact hpassed
    . obtain ⟨_, hmuted, hpassed⟩ := ih false hfalse fates' responses hgood'
      obtain ⟨rest, hrest, rfl⟩ := List.mem_map.mp hmuted
      obtain ⟨script, hscript, hsay⟩ := List.mem_filterMap.mp hrest
      refine ⟨script, hscript, ?_⟩
      rw [Script.eq_of_say? hsay]
      rwa [Script.tests_muted] at hpassed
  | read size enough before next ih =>
    rw [play_read] at hgood
    obtain ⟨rest, hrest, hpassed⟩ := ih _ (h _) fates _ hgood
    obtain ⟨script, hscript, hhear⟩ := List.mem_filterMap.mp hrest
    refine ⟨script, hscript, ?_⟩
    rcases Script.of_hear? hhear with ⟨test, rfl, htest⟩ | ⟨-, htests⟩
    . exact ⟨htest, hpassed⟩
    . rw [htests]
      trivial

theorem Keeps.map {good' : γ → Prop} (h : client.Keeps good scripts) (f : β → γ)
    (hgood : ∀ result, good' (f result) → good result)
    : (client >>= fun result => .done (f result)).Keeps good' scripts := by
  induction client generalizing scripts with
  | done result => exact fun hresult => h (hgood result hresult)
  | send message next ih => exact ⟨h.1, ih true h.2.1, ih false h.2.2⟩
  | read size enough before next ih => exact fun response => ih response (h response)

/-- Whatever the peer says and however the network delivers it. -/
theorem Keeps.follows_of_reaches {peer : Peer} {ok : State β → Action → Prop} {s : State β}
    (hkeeps : client.Keeps good scripts) (hne : scripts ≠ [])
    (h : Reaches (step peer) ok (start peer client) s)
    : ∃ script ∈ scripts, script.Follows s.heard s.responses := by
  rw [heard_of_reaches h]
  rcases hkeeps.follows s.fates s.responses with hsilent | hfollows
  . obtain ⟨script, hscript⟩ := List.exists_mem_of_ne_nil _ hne
    rw [hsilent]
    exact ⟨script, hscript, Script.follows_nil _ _⟩
  . exact hfollows

theorem Keeps.evidence_of_exec {peer : Peer} {actions : List Action} {s : State β} {result : β}
    (hkeeps : client.Keeps good scripts) (honce : client.Once)
    (h : exec (step peer) (start peer client) actions = some s) (hdone : s.client = .done result)
    (hgood : good result)
    : ∃ script ∈ scripts, Script.Evidence script.tests (said peer s.heard) := by
  have hplay : client.play s.fates s.responses = result :=
    play_of_done (.of_exec actions (fun _ _ => trivial) .refl h) hdone
  rw [← hplay] at hgood
  obtain ⟨script, hscript, hpassed⟩ := hkeeps.passed s.fates s.responses hgood
  rw [(pieces_of_exec honce h).responses] at hpassed
  exact ⟨script, hscript, Script.evidence_of_passed _ _ _ hpassed⟩

end Dialogue
end NetmonPlugins

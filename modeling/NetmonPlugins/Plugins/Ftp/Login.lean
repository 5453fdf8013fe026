import NetmonPlugins.Net.Transcript
import NetmonPlugins.Plugins.Ftp.Impl
import NetmonPlugins.Rfc.Ftp

/-!
This module contains the login of `check_ftp` against every server: what the check takes for the
answer to a command when the network cuts the replies.
-/

namespace NetmonPlugins
namespace FtpPlugin

open Dialogue
open Ftp (Reply)

def server (replies : List Reply) : Peer := transcript (fun _ => true) (replies.map (·.bytes))

def answer (replies : List Reply) (k : Nat) (c : Char) : Prop :=
  ∃ reply, replies[k]? = some reply ∧ startsWith reply.code c

/-- The server has answered 2yz to USER, or 3yz to USER and 2yz to PASS. -/
def LoggedIn (replies : List Reply) : Prop :=
  answer replies 1 '2' ∨ answer replies 1 '3' ∧ answer replies 2 '2'

structure Sound (replies : List Reply) (s : State Bool) : Prop where
  login : s.client = .done true → LoggedIn replies
  -- Where the client reads and its way depends on the response, nothing but the answer to the last
  -- command is on the wire.
  aligned : ∀ size enough response next, s.client = .read size enough response next
    → (∃ r r', next r ≠ next r')
    → s.wire = server replies s.heard

def IsIntermediate (s : State Bool) : Prop :=
  s.heard = [] ∧ startsWith s.wire '2' ∨ s.heard.length = 1 ∧ startsWith s.wire '3'

/-- A reply that the client goes on after is received whole. -/
def Whole (s : State Bool) : Action → Prop
  | .send _ => True
  | .deliver n => IsIntermediate s → n = s.wire.length
  | .timeout => True

instance (s : State Bool) : Decidable (IsIntermediate s) := inferInstanceAs (Decidable (_ ∨ _))

instance (s : State Bool) : (a : Action) → Decidable (Whole s a)
  | .send _ => inferInstanceAs (Decidable True)
  | .deliver n => inferInstanceAs (Decidable (IsIntermediate s → n = s.wire.length))
  | .timeout => inferInstanceAs (Decidable True)

inductive Phase (replies : List Reply) (user pass : Bytes) (anon : Bool) (s : State Bool)
    : Prop where
  | greeting (hclient : s.client = checkFtp true user pass anon) (hheard : s.heard = [])
      (hwire : s.wire = server replies [])
  | user (hclient : s.client = sendUser user pass anon) (hheard : s.heard = [])
      (hwire : s.wire = [])
  | userAnswer (hclient : s.client = userAnswer pass anon) (hheard : s.heard.length = 1)
      (hwire : s.wire = server replies s.heard)
  | pass (hclient : s.client = sendPass pass anon) (hheard : s.heard.length = 1)
      (hwire : s.wire = []) (huser : answer replies 1 '3')
  | passAnswer (hclient : s.client = passAnswer) (hheard : s.heard.length = 2)
      (hwire : s.wire = server replies s.heard) (huser : answer replies 1 '3')
  | quit (hclient : s.client = quit) (hlogin : LoggedIn replies)
  | quitAnswer (hclient : s.client = .read 1023 (fun _ => true) [] fun _ => .done true)
      (hlogin : LoggedIn replies)
  | accepted (hclient : s.client = .done true) (hlogin : LoggedIn replies)
  | rejected (hclient : s.client = .done false)

section

variable {replies : List Reply} {user pass : Bytes} {anon : Bool}

theorem startsWith_server_iff (heard : List Bytes) (c : Char)
    : startsWith (server replies heard) c ↔ answer replies heard.length c := by
  unfold server answer startsWith
  rw [transcript_eq_getD, List.getD_eq_getElem?_getD, List.getElem?_map]
  cases replies[heard.length]? with
  | none => simp
  | some reply => simp [Reply.head?_bytes]

theorem startsWith_received {wire : Bytes} {n : Nat} (hn : 0 < n) {c : Char} (hc : c.toUInt8 ≠ 0)
    : startsWith ([] ++ cstr (wire.take n)) c = startsWith wire c := by
  rw [List.nil_append, startsWith_cstr _ _ hc, startsWith_take _ _ hn]

theorem ne_nil_of_startsWith {response : Bytes} {c : Char} (h : startsWith response c)
    : response ≠ [] := by
  intro hnil
  rw [hnil, startsWith_nil] at h
  contradiction

theorem checkFtp_eq (user pass : Bytes) (anon : Bool)
    : checkFtp true user pass anon
        =
      .read 1023 (fun _ => true) [] fun response =>
        if startsWith response '2' then sendUser user pass anon else .done false := by
  unfold checkFtp readResponse
  simp only [Bool.not_true, Bool.false_eq_true, ↓reduceIte, read_bind, done_bind, pure_eq_done]
  congr 1
  funext response
  cases h : startsWith response '2' with
  | true => simp [ne_nil_of_startsWith h]
  | false => simp

theorem sendUser_eq (user pass : Bytes) (anon : Bool)
    : sendUser user pass anon
        =
      .send (str "USER " ++ loginUser user anon ++ crlf) fun ok =>
        if ok then userAnswer pass anon else .done false := by
  unfold sendUser sendCommand
  simp only [send_bind, done_bind, pure_eq_done]
  congr 1
  funext ok
  cases ok <;> rfl

theorem userAnswer_eq (pass : Bytes) (anon : Bool)
    : userAnswer pass anon
        =
      .read 1023 (fun _ => true) [] fun response =>
        if startsWith response '3' then
          sendPass pass anon
        else if startsWith response '2' then
          quit
        else
          .done false := by
  unfold userAnswer readResponse
  simp only [read_bind, done_bind, pure_eq_done]
  congr 1
  funext response
  cases h3 : startsWith response '3' with
  | true => simp [ne_nil_of_startsWith h3]
  | false =>
    cases h2 : startsWith response '2' with
    | true => simp [ne_nil_of_startsWith h2]
    | false => simp

theorem sendPass_eq (pass : Bytes) (anon : Bool)
    : sendPass pass anon
        =
      .send (str "PASS " ++ loginPass pass anon ++ crlf) fun ok =>
        if ok then passAnswer else .done false := by
  unfold sendPass sendCommand
  simp only [send_bind, done_bind, pure_eq_done]
  congr 1
  funext ok
  cases ok <;> rfl

theorem passAnswer_eq
    : passAnswer
        =
      .read 1023 (fun _ => true) [] fun response =>
        if startsWith response '2' then quit else .done false := by
  unfold passAnswer readResponse
  simp only [read_bind, done_bind, pure_eq_done]
  congr 1
  funext response
  cases h : startsWith response '2' with
  | true => simp [ne_nil_of_startsWith h]
  | false => simp

theorem quit_eq
    : quit
        =
      .send (str "QUIT" ++ crlf) fun _ =>
        .read 1023 (fun _ => true) [] fun _ => .done true := rfl

theorem read_cases {s s' : State Bool} {a : Action} {next : Bytes → Dialogue Bool}
    (hclient : s.client = .read 1023 (fun _ => true) [] next)
    (hstep : step (server replies) s a = some s')
    : (∃ n response, a = .deliver n
        ∧ (∀ c : Char, c.toUInt8 ≠ 0 → startsWith response c = startsWith s.wire c)
        ∧ s'.client = next response ∧ s'.heard = s.heard ∧ s'.wire = s.wire.drop n)
        ∨
      s'.client = next [] := by
  cases step_read hclient hstep with
  | inl hdeliver =>
    obtain ⟨n, rfl, hn, _, _, rfl⟩ := hdeliver
    left
    refine ⟨n, [] ++ cstr (s.wire.take n), rfl, ?_, rfl, rfl, rfl⟩
    intro c hc
    apply startsWith_received hn hc
  | inr htimeout =>
    obtain ⟨rfl, rfl⟩ := htimeout
    right
    rfl

theorem Phase.step {s s' : State Bool} {a : Action} (h : Phase replies user pass anon s)
    (hwhole : Whole s a) (hstep : step (server replies) s a = some s')
    : Phase replies user pass anon s' := by
  cases h with
  | greeting hclient hheard hwire =>
    rw [checkFtp_eq] at hclient
    cases read_cases hclient hstep with
    | inl hreceived =>
      obtain ⟨n, response, rfl, hstarts, hclient', hheard', hwire'⟩ := hreceived
      rw [hstarts '2' (by decide)] at hclient'
      cases hfirst : startsWith s.wire '2' with
      | true =>
        rw [hfirst, if_pos rfl] at hclient'
        apply Phase.user hclient' (hheard'.trans hheard)
        rw [hwire', hwhole (.inl ⟨hheard, hfirst⟩), List.drop_length]
      | false =>
        rw [hfirst] at hclient'
        apply Phase.rejected hclient'
    | inr hwaited => apply Phase.rejected hwaited
  | user hclient hheard hwire =>
    rw [sendUser_eq] at hclient
    cases step_send hclient hstep with
    | inl haccepted =>
      obtain ⟨hclient, hheard', hwire'⟩ := haccepted
      apply Phase.userAnswer hclient
      . rw [hheard', hheard]
        rfl
      . rw [hwire', hwire, hheard', List.nil_append]
    | inr hrefused => apply Phase.rejected hrefused.1
  | userAnswer hclient hheard hwire =>
    have hanswer (c : Char) : startsWith s.wire c ↔ answer replies 1 c := by
      rw [hwire, startsWith_server_iff, hheard]
    rw [userAnswer_eq] at hclient
    cases read_cases hclient hstep with
    | inl hreceived =>
      obtain ⟨n, response, rfl, hstarts, hclient', hheard', hwire'⟩ := hreceived
      rw [hstarts '3' (by decide), hstarts '2' (by decide)] at hclient'
      cases hfirst : startsWith s.wire '3' with
      | true =>
        rw [hfirst, if_pos rfl] at hclient'
        apply Phase.pass hclient' (hheard'.symm ▸ hheard)
        . rw [hwire', hwhole (.inr ⟨hheard, hfirst⟩), List.drop_length]
        . apply (hanswer '3').mp hfirst
      | false =>
        rw [hfirst, if_neg (by decide)] at hclient'
        cases hsecond : startsWith s.wire '2' with
        | true =>
          rw [hsecond, if_pos rfl] at hclient'
          apply Phase.quit hclient'
          left
          apply (hanswer '2').mp hsecond
        | false =>
          rw [hsecond] at hclient'
          apply Phase.rejected hclient'
    | inr hwaited => apply Phase.rejected hwaited
  | pass hclient hheard hwire huser =>
    rw [sendPass_eq] at hclient
    cases step_send hclient hstep with
    | inl haccepted =>
      obtain ⟨hclient, hheard', hwire'⟩ := haccepted
      apply Phase.passAnswer hclient
      . rw [hheard', List.length_append, hheard]
        rfl
      . rw [hwire', hwire, hheard', List.nil_append]
      . exact huser
    | inr hrefused => apply Phase.rejected hrefused.1
  | passAnswer hclient hheard hwire huser =>
    rw [passAnswer_eq] at hclient
    cases read_cases hclient hstep with
    | inl hreceived =>
      obtain ⟨n, response, rfl, hstarts, hclient', hheard', hwire'⟩ := hreceived
      rw [hstarts '2' (by decide)] at hclient'
      cases hfirst : startsWith s.wire '2' with
      | true =>
        rw [hfirst, if_pos rfl] at hclient'
        apply Phase.quit hclient'
        right
        refine ⟨huser, ?_⟩
        rwa [hwire, startsWith_server_iff, hheard] at hfirst
      | false =>
        rw [hfirst] at hclient'
        apply Phase.rejected hclient'
    | inr hwaited => apply Phase.rejected hwaited
  | quit hclient hlogin =>
    rw [quit_eq] at hclient
    cases step_send hclient hstep with
    | inl haccepted => apply Phase.quitAnswer haccepted.1 hlogin
    | inr hrefused => apply Phase.quitAnswer hrefused.1 hlogin
  | quitAnswer hclient hlogin =>
    cases read_cases hclient hstep with
    | inl hreceived =>
      obtain ⟨n, response, _, _, hclient', _⟩ := hreceived
      apply Phase.accepted hclient' hlogin
    | inr hwaited => apply Phase.accepted hwaited hlogin
  | accepted hclient hlogin =>
    rw [step_done hclient] at hstep
    contradiction
  | rejected hclient =>
    rw [step_done hclient] at hstep
    contradiction

theorem Phase.sound {s : State Bool} (h : Phase replies user pass anon s) : Sound replies s := by
  constructor
  . intro hdone
    cases h with
    | accepted hclient hlogin => exact hlogin
    | quit hclient hlogin => exact hlogin
    | quitAnswer hclient hlogin => exact hlogin
    | greeting hclient => simp [hclient, checkFtp_eq] at hdone
    | user hclient => simp [hclient, sendUser_eq] at hdone
    | userAnswer hclient => simp [hclient, userAnswer_eq] at hdone
    | pass hclient => simp [hclient, sendPass_eq] at hdone
    | passAnswer hclient => simp [hclient, passAnswer_eq] at hdone
    | rejected hclient => simp [hclient] at hdone
  . intro size enough response next hread hjudged
    cases h with
    | greeting hclient hheard hwire => rw [hwire, hheard]
    | userAnswer hclient hheard hwire => exact hwire
    | passAnswer hclient hheard hwire => exact hwire
    | quitAnswer hclient hlogin =>
      rw [hclient, Dialogue.read.injEq] at hread
      obtain ⟨_, _, _, rfl⟩ := hread
      obtain ⟨r, r', hne⟩ := hjudged
      exact absurd rfl hne
    | user hclient => simp [hclient, sendUser_eq] at hread
    | pass hclient => simp [hclient, sendPass_eq] at hread
    | quit hclient => simp [hclient, quit_eq] at hread
    | accepted hclient => simp [hclient] at hread
    | rejected hclient => simp [hclient] at hread

theorem login_sound (replies : List Reply) (user pass : Bytes) (anon : Bool) (s : State Bool)
    (h : Reaches (step (server replies)) Whole
      (start (server replies) (checkFtp true user pass anon)) s)
    : Sound replies s := by
  have hphase : Phase replies user pass anon s := by
    apply Reaches.invariant _ _ h
    . exact Phase.greeting rfl rfl rfl
    . intro s a s' hphase hwhole hstep
      exact hphase.step hwhole hstep
  exact hphase.sound

/-- What a cut leaves on the wire is read before the answer to the next command. -/
theorem not_sound_of_cut {s : State Bool} {n size : Nat} {next judge : Bytes → Dialogue Bool}
    {message response : Bytes} {ask : Bool → Dialogue Bool} {enough : Bytes → Bool}
    (hclient : s.client = .read 1023 (fun _ => true) [] next) (hn : 0 < n) (hsize : n ≤ 1023)
    (hcut : n < s.wire.length) (hnext : next ([] ++ cstr (s.wire.take n)) = .send message ask)
    (hask : ask true = .read size enough response judge) (hjudged : ∃ r r', judge r ≠ judge r')
    : ∃ s', exec (step (server replies)) s [.deliver n, .send true] = some s'
        ∧ ¬ Sound replies s' := by
  have hdeliver : step (server replies) s (.deliver n)
      = some (s.deliver n 1023 (fun _ => true) [] next) := by
    simp only [Dialogue.step, hclient]
    rw [if_pos ⟨hn, hsize, Nat.le_of_lt hcut⟩]
  have hsend : ∃ s', step (server replies) (s.deliver n 1023 (fun _ => true) [] next) (.send true)
      = some s' ∧ s'.client = ask true
        ∧ s'.wire = s.wire.drop n ++ server replies s'.heard := by
    simp only [Dialogue.step, State.deliver, State.finish, ↓reduceIte, hnext]
    exact ⟨_, rfl, rfl, rfl⟩
  obtain ⟨s', hstep, hclient', hwire'⟩ := hsend
  refine ⟨s', ?_, ?_⟩
  . rw [exec, hdeliver]
    dsimp only
    rw [exec, hstep]
    rfl
  . intro hsound
    have haligned := hsound.aligned _ _ _ _ (hclient'.trans hask) hjudged
    rw [hwire', List.append_left_eq_self, List.drop_eq_nil_iff] at haligned
    omega

theorem not_sound_of_cutGreeting {s : State Bool} {n : Nat}
    (hclient : s.client = checkFtp true user pass anon) (hpositive : startsWith s.wire '2')
    (hn : 0 < n) (hsize : n ≤ 1023) (hcut : n < s.wire.length)
    : ∃ s', exec (step (server replies)) s [.deliver n, .send true] = some s'
        ∧ ¬ Sound replies s' := by
  rw [checkFtp_eq] at hclient
  apply not_sound_of_cut hclient hn hsize hcut
  . rw [startsWith_received hn (by decide), hpositive, if_pos rfl, sendUser_eq]
  . rw [if_pos rfl, userAnswer_eq]
  . refine ⟨[], str "2", ?_⟩
    have h3 : startsWith (str "2") '3' = false := rfl
    have h2 : startsWith (str "2") '2' = true := rfl
    simp [startsWith_nil, h3, h2, quit_eq]

theorem not_sound_of_cutUserAnswer {s : State Bool} {n : Nat}
    (hclient : s.client = userAnswer pass anon) (hintermediate : startsWith s.wire '3')
    (hn : 0 < n) (hsize : n ≤ 1023) (hcut : n < s.wire.length)
    : ∃ s', exec (step (server replies)) s [.deliver n, .send true] = some s'
        ∧ ¬ Sound replies s' := by
  rw [userAnswer_eq] at hclient
  apply not_sound_of_cut hclient hn hsize hcut
  . rw [startsWith_received hn (by decide), hintermediate, if_pos rfl, sendPass_eq]
  . rw [if_pos rfl, passAnswer_eq]
  . refine ⟨[], str "2", ?_⟩
    have h2 : startsWith (str "2") '2' = true := rfl
    simp [startsWith_nil, h2, quit_eq]

def welcome : Reply where
  code := str "220"
  code_length := rfl
  code_digits := rfl
  opening := [str "Welcome to"]
  text := str "the archive"
  lines := by decide
  last := by decide

def passwordRequired : Reply where
  code := str "331"
  code_length := rfl
  code_digits := rfl
  opening := []
  text := str "Password required"
  lines := by decide
  last := by decide

def loggedIn : Reply where
  code := str "230"
  code_length := rfl
  code_digits := rfl
  opening := []
  text := str "Logged in"
  lines := by decide
  last := by decide

def notLoggedIn : Reply where
  code := str "530"
  code_length := rfl
  code_digits := rfl
  opening := []
  text := str "Not logged in"
  lines := by decide
  last := by decide

def wholeRun : List Action :=
  [.deliver 33, .send true, .deliver 23, .send true, .deliver 15, .send true, .timeout]

theorem login_sound_of_wholeRun
    : ∃ s, exec (step (server [welcome, passwordRequired, loggedIn]))
          (start (server [welcome, passwordRequired, loggedIn])
            (checkFtp true (str "ann") (str "secret") false)) wholeRun = some s
        ∧ s.client = .done true ∧ Sound [welcome, passwordRequired, loggedIn] s := by
  have hrun : outcome (server [welcome, passwordRequired, loggedIn])
      (checkFtp true (str "ann") (str "secret") false) wholeRun = some true := by decide +kernel
  obtain ⟨s, hexec, hdone⟩ := (outcome_eq_some_iff _ _ _ _).mp hrun
  refine ⟨s, hexec, hdone, ?_⟩
  apply login_sound _ (str "ann") (str "secret") false
  apply Reaches.of_obeys wholeRun _ .refl hexec
  decide +kernel

/-- The second line of the greeting arrives behind USER and is taken for its answer. -/
theorem login_of_splitGreeting
    : outcome (server [welcome, notLoggedIn]) (checkFtp true (str "eve") (str "guess") false)
          [.deliver 16, .send true, .deliver 17, .send true, .deliver 19]
        = some true
        ∧ ¬ LoggedIn [welcome, notLoggedIn] := by
  constructor
  . decide +kernel
  . rintro (⟨reply, hreply, hcode⟩ | ⟨⟨reply, hreply, hcode⟩, _⟩)
    . cases hreply
      contradiction
    . cases hreply
      contradiction

end

end FtpPlugin
end NetmonPlugins

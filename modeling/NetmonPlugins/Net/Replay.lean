import Mathlib.Data.List.Infix
import Mathlib.Algebra.Order.Ring.Nat
import NetmonPlugins.Net.Dialogue

/-!
This module contains the replay of a run: its result and the messages that are sent depend on
nothing but the fates of the messages and the responses of the reads. A read of an answer that is
enough where it ends and nowhere before returns the answer, however the network cuts it.
-/

namespace NetmonPlugins
namespace Dialogue

variable {peer : Peer} {s s' : State β} {client : Dialogue β}

@[simp]
theorem play_done (result : β) (fates : List Bool) (responses : List Bytes)
    : (Dialogue.done result).play fates responses = result := rfl

@[simp]
theorem play_send (message : Bytes) (next : Bool → Dialogue β) (responses : List Bytes)
    : (Dialogue.send message next).play [] responses = (next true).play [] responses := rfl

@[simp]
theorem play_read (size : Nat) (enough : Bytes → Bool) (response : Bytes)
    (next : Bytes → Dialogue β) (fates : List Bool) (responses : List Bytes)
    : (Dialogue.read size enough response next).play fates responses
        =
      (next (responses.headD [])).play fates responses.tail := by
  cases responses <;> rfl

theorem play_bind_done (client : Dialogue β) (f : β → γ) (responses : List Bytes)
    : (client >>= fun b => (.done (f b) : Dialogue γ)).play [] responses
        =
      f (client.play [] responses) := by
  induction client generalizing responses with
  | done b => rfl
  | send message next ih =>
    rw [send_bind, play_send, play_send]
    exact ih true responses
  | read size enough response next ih =>
    rw [read_bind, play_read, play_read]
    exact ih _ _

theorem step_accepted (h : step peer s (.send true) = some s')
    : ∃ message next, s.client = .send message next
        ∧ s' = { s with
            client := next true
            heard := s.heard ++ [message]
            wire := s.wire ++ peer (s.heard ++ [message])
            fates := s.fates ++ [true] } := by
  cases hclient : s.client with
  | done result => simp [step, hclient] at h
  | send message next =>
    simp only [step, hclient, Option.some.injEq] at h
    exact ⟨message, next, rfl, h.symm⟩
  | read size enough response next => simp [step, hclient] at h

theorem step_refused (h : step peer s (.send false) = some s')
    : ∃ message next, s.client = .send message next
        ∧ s' = { s with client := next false, fates := s.fates ++ [false] } := by
  cases hclient : s.client with
  | done result => simp [step, hclient] at h
  | send message next =>
    simp only [step, hclient, Option.some.injEq] at h
    exact ⟨message, next, rfl, h.symm⟩
  | read size enough response next => simp [step, hclient] at h

theorem step_deliver {n : Nat} (h : step peer s (.deliver n) = some s')
    : ∃ size enough response next, s.client = .read size enough response next
        ∧ 0 < n ∧ n ≤ size ∧ n ≤ s.wire.length
        ∧ s' = s.deliver n size enough response next := by
  cases hclient : s.client with
  | done result => simp [step, hclient] at h
  | send message next => simp [step, hclient] at h
  | read size enough response next =>
    simp only [step, hclient, Option.ite_none_right_eq_some, Option.some.injEq] at h
    obtain ⟨⟨hpos, hsize, hwire⟩, hs'⟩ := h
    exact ⟨size, enough, response, next, rfl, hpos, hsize, hwire, hs'.symm⟩

theorem step_timeout (h : step peer s .timeout = some s')
    : ∃ size enough response next, s.client = .read size enough response next
        ∧ s' = s.finish next response := by
  cases hclient : s.client with
  | done result => simp [step, hclient] at h
  | send message next => simp [step, hclient] at h
  | read size enough response next =>
    simp only [step, hclient, Option.some.injEq] at h
    exact ⟨size, enough, response, next, rfl, h.symm⟩

theorem step_send {a : Action} {message : Bytes} {next : Bool → Dialogue β}
    (hclient : s.client = .send message next) (h : step peer s a = some s')
    : s'.client = next true ∧ s'.heard = s.heard ++ [message]
        ∧ s'.wire = s.wire ++ peer (s.heard ++ [message])
        ∨
      s'.client = next false ∧ s'.heard = s.heard ∧ s'.wire = s.wire := by
  cases a with
  | send ok =>
    cases ok with
    | true =>
      obtain ⟨message', next', hclient', rfl⟩ := step_accepted h
      rw [hclient, Dialogue.send.injEq] at hclient'
      obtain ⟨rfl, rfl⟩ := hclient'
      exact .inl ⟨rfl, rfl, rfl⟩
    | false =>
      obtain ⟨message', next', hclient', rfl⟩ := step_refused h
      rw [hclient, Dialogue.send.injEq] at hclient'
      obtain ⟨rfl, rfl⟩ := hclient'
      exact .inr ⟨rfl, rfl, rfl⟩
  | deliver n =>
    obtain ⟨size, enough, response, next', hclient', _⟩ := step_deliver h
    simp [hclient] at hclient'
  | timeout =>
    obtain ⟨size, enough, response, next', hclient', _⟩ := step_timeout h
    simp [hclient] at hclient'

theorem step_read {a : Action} {size : Nat} {enough : Bytes → Bool} {response : Bytes}
    {next : Bytes → Dialogue β} (hclient : s.client = .read size enough response next)
    (h : step peer s a = some s')
    : (∃ n, a = .deliver n ∧ 0 < n ∧ n ≤ size ∧ n ≤ s.wire.length
        ∧ s' = s.deliver n size enough response next)
        ∨
      a = .timeout ∧ s' = s.finish next response := by
  cases a with
  | send ok =>
    cases ok with
    | true =>
      obtain ⟨message, next', hclient', _⟩ := step_accepted h
      simp [hclient] at hclient'
    | false =>
      obtain ⟨message, next', hclient', _⟩ := step_refused h
      simp [hclient] at hclient'
  | deliver n =>
    obtain ⟨size', enough', response', next', hclient', hpos, hsize, hwire, hs'⟩ := step_deliver h
    rw [hclient, Dialogue.read.injEq] at hclient'
    obtain ⟨rfl, rfl, rfl, rfl⟩ := hclient'
    exact .inl ⟨n, rfl, hpos, hsize, hwire, hs'⟩
  | timeout =>
    obtain ⟨size', enough', response', next', hclient', hs'⟩ := step_timeout h
    rw [hclient, Dialogue.read.injEq] at hclient'
    obtain ⟨rfl, rfl, rfl, rfl⟩ := hclient'
    exact .inr ⟨rfl, hs'⟩

theorem step_done {a : Action} {result : β} (hclient : s.client = .done result)
    : step peer s a = none := by
  unfold step
  rw [hclient]

/-- The messages that are sent before the fates or the responses come to their end. -/
def sent : Dialogue β → List Bool → List Bytes → List Bytes
  | .done _, _, _ => []
  | .send _ _, [], _ => []
  | .send message next, ok :: fates, responses =>
    (if ok then [message] else []) ++ (next ok).sent fates responses
  | .read _ _ _ _, _, [] => []
  | .read _ _ _ next, fates, response :: responses => (next response).sent fates responses

theorem replay_of_step {a : Action} (h : step peer s a = some s')
    : ∃ fates responses heard, s'.fates = s.fates ++ fates ∧ s'.responses = s.responses ++ responses
        ∧ s'.heard = s.heard ++ heard
        ∧ ∀ fs rs, s.client.play (fates ++ fs) (responses ++ rs) = s'.client.play fs rs
          ∧ s.client.sent (fates ++ fs) (responses ++ rs) = heard ++ s'.client.sent fs rs := by
  cases a with
  | send ok =>
    cases ok with
    | true =>
      obtain ⟨message, next, hclient, rfl⟩ := step_accepted h
      refine ⟨[true], [], [message], rfl, (List.append_nil _).symm, rfl, ?_⟩
      intro fs rs
      rw [hclient]
      exact ⟨rfl, rfl⟩
    | false =>
      obtain ⟨message, next, hclient, rfl⟩ := step_refused h
      refine ⟨[false], [], [], rfl, (List.append_nil _).symm, (List.append_nil _).symm, ?_⟩
      intro fs rs
      rw [hclient]
      exact ⟨rfl, rfl⟩
  | deliver n =>
    obtain ⟨size, enough, response, next, hclient, _, _, _, rfl⟩ := step_deliver h
    rw [hclient]
    unfold State.deliver
    dsimp only
    split
    . refine ⟨[], [response ++ cstr (s.wire.take n)], [], (List.append_nil _).symm, rfl,
        (List.append_nil _).symm, ?_⟩
      intro fs rs
      exact ⟨rfl, rfl⟩
    -- The read goes on; what it has received so far does not matter to the replay.
    . refine ⟨[], [], [], (List.append_nil _).symm, (List.append_nil _).symm,
        (List.append_nil _).symm, ?_⟩
      intro fs rs
      cases rs with
      | nil => exact ⟨rfl, rfl⟩
      | cons r rs => exact ⟨rfl, rfl⟩
  | timeout =>
    obtain ⟨size, enough, response, next, hclient, rfl⟩ := step_timeout h
    refine ⟨[], [response], [], (List.append_nil _).symm, rfl, (List.append_nil _).symm, ?_⟩
    intro fs rs
    rw [hclient]
    exact ⟨rfl, rfl⟩

theorem play_of_reaches {ok : State β → Action → Prop}
    (h : Reaches (step peer) ok (start peer client) s) (fs : List Bool) (rs : List Bytes)
    : client.play (s.fates ++ fs) (s.responses ++ rs) = s.client.play fs rs := by
  induction h generalizing fs rs with
  | refl => rfl
  | tail a hreach hok hstep ih =>
    obtain ⟨fates, responses, heard, hfates, hresponses, _, hreplay⟩ := replay_of_step hstep
    rw [hfates, hresponses, List.append_assoc, List.append_assoc, ih, (hreplay fs rs).1]

theorem play_of_done {ok : State β → Action → Prop} {result : β}
    (h : Reaches (step peer) ok (start peer client) s) (hdone : s.client = .done result)
    : client.play s.fates s.responses = result := by
  have hplay := play_of_reaches h [] []
  rwa [List.append_nil, List.append_nil, hdone] at hplay

theorem play_map (client : Dialogue α) (f : α → β) (fates : List Bool) (responses : List Bytes)
    : (client >>= fun a => .done (f a)).play fates responses = f (client.play fates responses) := by
  induction client generalizing fates responses with
  | done result => rfl
  | send message next ih =>
    rw [send_bind]
    cases fates with
    | nil => apply ih
    | cons ok fates => apply ih
  | read size enough response next ih =>
    rw [read_bind, play_read, play_read]
    apply ih

theorem play_of_sent (client : Dialogue β) (fates : List Bool) (responses : List Bytes)
    (h : ∀ ok ∈ fates, ok = true)
    : client.play fates responses = client.play [] responses := by
  induction client generalizing fates responses with
  | done result => rfl
  | send message next ih =>
    cases fates with
    | nil => rfl
    | cons ok fates =>
      rw [List.forall_mem_cons] at h
      rw [h.1]
      apply ih true fates responses h.2
  | read size enough response next ih =>
    cases responses with
    | nil => apply ih [] fates [] h
    | cons r responses => apply ih r fates responses h

theorem fates_of_prompt (h : Reaches (step peer) Prompt (start peer client) s)
    : ∀ ok ∈ s.fates, ok = true := by
  apply Reaches.invariant _ _ h
  . intro ok hok
    contradiction
  . intro s a s' hinv hok hstep
    cases a with
    | send ok =>
      cases hok
      obtain ⟨message, next, _, rfl⟩ := step_accepted hstep
      intro ok hmem
      cases List.mem_append.mp hmem with
      | inl hmem => exact hinv ok hmem
      | inr hmem => exact List.mem_singleton.mp hmem
    | deliver n =>
      obtain ⟨size, enough, response, next, _, _, _, _, rfl⟩ := step_deliver hstep
      unfold State.deliver
      dsimp only
      split
      . exact hinv
      . exact hinv
    | timeout =>
      obtain ⟨size, enough, response, next, _, rfl⟩ := step_timeout hstep
      exact hinv

/-- The client does not come to the responses behind those it has ended with. -/
theorem play_append_of_prompt {result : β} (h : Reaches (step peer) Prompt (start peer client) s)
    (hdone : s.client = .done result) (responses : List Bytes)
    : client.play [] (s.responses ++ responses) = result := by
  have hplay := play_of_reaches h [] responses
  rw [List.append_nil, hdone] at hplay
  rw [← play_of_sent client _ _ (fates_of_prompt h)]
  exact hplay

theorem play_of_prompt {result : β} (h : Reaches (step peer) Prompt (start peer client) s)
    (hdone : s.client = .done result)
    : client.play [] s.responses = result := by
  rw [← play_append_of_prompt h hdone [], List.append_nil]

theorem responses_of_exec_prefix {actions : List Action} (h : exec (step peer) s actions = some s')
    : s.responses <+: s'.responses := by
  induction actions generalizing s with
  | nil =>
    rw [exec, Option.some.injEq] at h
    rw [h]
  | cons a actions ih =>
    rw [exec] at h
    split at h
    . contradiction
    . next s₁ hstep =>
      obtain ⟨fates, responses, heard, _, hresponses, _⟩ := replay_of_step hstep
      apply List.IsPrefix.trans _ (ih h)
      rw [hresponses]
      apply List.prefix_append

theorem play_pad (client : Dialogue β) (fates : List Bool) (responses : List Bytes) (n : Nat)
    : client.play fates (responses ++ List.replicate n []) = client.play fates responses := by
  induction client generalizing fates responses n with
  | done result => rfl
  | send message next ih =>
    cases fates with
    | nil => apply ih
    | cons ok fates => apply ih
  | read size enough response next ih =>
    rw [play_read, play_read]
    cases responses with
    | nil =>
      cases n with
      | zero => rfl
      | succ n => apply ih [] fates [] n
    | cons r responses => apply ih

theorem sent_nil (client : Dialogue β) : client.sent [] [] = [] := by
  cases client <;> rfl

theorem sent_map (client : Dialogue α) (f : α → β) (fates : List Bool) (responses : List Bytes)
    : (client >>= fun a => .done (f a)).sent fates responses = client.sent fates responses := by
  induction client generalizing fates responses with
  | done result => rfl
  | send message next ih =>
    rw [send_bind]
    cases fates with
    | nil => rfl
    | cons ok fates => simp only [sent, ih]
  | read size enough response next ih =>
    rw [read_bind]
    cases responses with
    | nil => rfl
    | cons r responses => apply ih

theorem heard_append_of_reaches {ok : State β → Action → Prop}
    (h : Reaches (step peer) ok (start peer client) s) (fs : List Bool) (rs : List Bytes)
    : client.sent (s.fates ++ fs) (s.responses ++ rs) = s.heard ++ s.client.sent fs rs := by
  induction h generalizing fs rs with
  | refl => rfl
  | tail a hreach hok hstep ih =>
    obtain ⟨fates, responses, heard, hfates, hresponses, hheard, hreplay⟩ := replay_of_step hstep
    rw [hfates, hresponses, hheard, List.append_assoc, List.append_assoc, ih, (hreplay fs rs).2,
      List.append_assoc]

theorem heard_of_reaches {ok : State β → Action → Prop}
    (h : Reaches (step peer) ok (start peer client) s)
    : s.heard = client.sent s.fates s.responses := by
  have hsent := heard_append_of_reaches h [] []
  rw [List.append_nil, List.append_nil, sent_nil, List.append_nil] at hsent
  exact hsent.symm

/-- The client gives up with a bad result as soon as a message cannot be sent. -/
def Fatal (bad : β → Prop) : Dialogue β → Prop
  | .done _ => True
  | .send _ next => (∃ result, next false = .done result ∧ bad result) ∧ (next true).Fatal bad
  | .read _ _ _ next => ∀ response, (next response).Fatal bad

theorem bad_of_refused {bad : β → Prop} {ok : State β → Action → Prop} (hfatal : client.Fatal bad)
    (h : Reaches (step peer) ok (start peer client) s)
    : s.client.Fatal bad ∧ (false ∈ s.fates → ∃ result, s.client = .done result ∧ bad result) := by
  apply Reaches.invariant _ _ h
  . refine ⟨hfatal, ?_⟩
    intro hmem
    contradiction
  . intro s a s' hinv hok hstep
    obtain ⟨hfatal, hrefused⟩ := hinv
    have hgoing : false ∉ s.fates := by
      intro hmem
      obtain ⟨result, hdone, _⟩ := hrefused hmem
      rw [step_done hdone] at hstep
      contradiction
    cases a with
    | send ok =>
      cases ok with
      | true =>
        obtain ⟨message, next, hclient, rfl⟩ := step_accepted hstep
        rw [hclient] at hfatal
        refine ⟨hfatal.2, ?_⟩
        intro hmem
        simp [hgoing] at hmem
      | false =>
        obtain ⟨message, next, hclient, rfl⟩ := step_refused hstep
        rw [hclient] at hfatal
        obtain ⟨⟨result, hresult, hbad⟩, _⟩ := hfatal
        refine ⟨?_, ?_⟩
        . show (next false).Fatal bad
          rw [hresult]
          trivial
        . intro _
          exact ⟨result, hresult, hbad⟩
    | deliver n =>
      obtain ⟨size, enough, response, next, hclient, _, _, _, rfl⟩ := step_deliver hstep
      rw [hclient] at hfatal
      unfold State.deliver
      dsimp only
      split
      . refine ⟨hfatal _, ?_⟩
        intro hmem
        exact absurd hmem hgoing
      . refine ⟨hfatal, ?_⟩
        intro hmem
        exact absurd hmem hgoing
    | timeout =>
      obtain ⟨size, enough, response, next, hclient, rfl⟩ := step_timeout hstep
      rw [hclient] at hfatal
      refine ⟨hfatal _, ?_⟩
      intro hmem
      exact absurd hmem hgoing

/-- A client that reads before the peer has said anything waits for the timeout. -/
theorem eq_of_outcome {size : Nat} {enough : Bytes → Bool} {response : Bytes}
    {next : Bytes → Dialogue β} {waited : β} (hpeer : peer [] = [])
    (hnext : next response = .done waited) {actions : List Action} {result : β}
    (h : outcome peer (.read size enough response next) actions = some result)
    : result = waited := by
  rw [outcome_eq_some_iff] at h
  obtain ⟨s, hexec, hdone⟩ := h
  cases actions with
  | nil =>
    rw [exec, Option.some.injEq] at hexec
    rw [← hexec] at hdone
    contradiction
  | cons a actions =>
    rw [exec] at hexec
    split at hexec
    . contradiction
    . next s₁ hstep =>
      cases step_read (s := start peer (.read size enough response next)) rfl hstep with
      | inl hdeliver =>
        obtain ⟨n, rfl, hpos, _, hwire, _⟩ := hdeliver
        have hlength : (start peer (.read size enough response next)).wire.length = 0 := by
          show (peer []).length = 0
          rw [hpeer]
          rfl
        omega
      | inr htimeout =>
        obtain ⟨rfl, rfl⟩ := htimeout
        cases actions with
        | nil =>
          rw [exec, Option.some.injEq] at hexec
          rw [← hexec] at hdone
          change next response = .done result at hdone
          rw [hnext, Dialogue.done.injEq] at hdone
          exact hdone.symm
        | cons a actions =>
          rw [exec, step_done hnext] at hexec
          contradiction

variable {size : Nat} {enough : Bytes → Bool} {response : Bytes}
variable {next : Bytes → Dialogue β}

theorem step_deliver_of_read {n : Nat} (hclient : s.client = .read size enough response next)
    (hpos : 0 < n) (hsize : n ≤ size) (hwire : n ≤ s.wire.length)
    : step peer s (.deliver n) = some (s.deliver n size enough response next) := by
  unfold step
  rw [hclient]
  simp only
  rw [if_pos ⟨hpos, hsize, hwire⟩]

theorem deliver_of_enough {n : Nat} (hzero : (0 : UInt8) ∉ s.wire)
    (h : enough (response ++ s.wire.take n) = true)
    : s.deliver n size enough response next
        =
      { s with wire := s.wire.drop n }.finish next (response ++ s.wire.take n) := by
  unfold State.deliver
  rw [cstr_of_notMem _ fun hmem => hzero (List.mem_of_mem_take hmem)]
  simp only [h, ↓reduceIte]

theorem deliver_of_not_enough {n : Nat} (hzero : (0 : UInt8) ∉ s.wire)
    (h : enough (response ++ s.wire.take n) = false)
    : s.deliver n size enough response next
        =
      { s with
        client := .read size enough (response ++ s.wire.take n) next
        wire := s.wire.drop n } := by
  unfold State.deliver
  rw [cstr_of_notMem _ fun hmem => hzero (List.mem_of_mem_take hmem)]
  simp only [h, Bool.false_eq_true, ↓reduceIte]

theorem exec_delivers (sizes : List Nat) (hclient : s.client = .read size enough response next)
    (hzero : (0 : UInt8) ∉ s.wire) (hne : s.wire ≠ []) (hsizes : ∀ n ∈ sizes, 0 < n ∧ n ≤ size)
    (hsum : sizes.sum = s.wire.length)
    (hfirst : ∀ n, n < s.wire.length → enough (response ++ s.wire.take n) = false)
    (hlast : enough (response ++ s.wire) = true)
    : exec (step peer) s (sizes.map .deliver)
        =
      some ({ s with wire := [] }.finish next (response ++ s.wire)) := by
  induction sizes generalizing s response with
  | nil =>
    rw [List.sum_nil] at hsum
    exact absurd (List.length_eq_zero_iff.mp hsum.symm) hne
  | cons n sizes ih =>
    rw [List.sum_cons] at hsum
    rw [List.forall_mem_cons] at hsizes
    rw [List.map_cons, exec,
      step_deliver_of_read hclient hsizes.1.1 hsizes.1.2 (by omega)]
    by_cases hall : n = s.wire.length
    . have hnil : sizes = [] := by
        have hzeros : ∀ m ∈ sizes, m = 0 := List.sum_eq_zero_iff_forall_eq_nat.mp (by omega)
        rw [List.eq_nil_iff_forall_not_mem]
        intro m hm
        have hmpos := (hsizes.2 m hm).1
        have hmzero := hzeros m hm
        omega
      have htake : s.wire.take n = s.wire := by
        rw [hall, List.take_length]
      have hdrop : s.wire.drop n = [] := by
        rw [hall, List.drop_length]
      rw [hnil, deliver_of_enough hzero (by rwa [htake]), htake, hdrop]
      rfl
    . rw [deliver_of_not_enough hzero (hfirst n (by omega))]
      dsimp only
      rw [ih rfl]
      . simp only [State.finish, List.append_assoc, List.take_append_drop]
      . intro hmem
        exact hzero (List.mem_of_mem_drop hmem)
      . rw [ne_eq, List.drop_eq_nil_iff]
        omega
      . exact hsizes.2
      . rw [List.length_drop]
        omega
      . intro m hm
        rw [List.length_drop] at hm
        have hboth := hfirst (n + m) (by omega)
        rwa [List.take_add, ← List.append_assoc] at hboth
      . rwa [List.append_assoc, List.take_append_drop]

end Dialogue
end NetmonPlugins

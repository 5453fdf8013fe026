import NetmonPlugins.Net.Transcript

/-!
This module contains clients that ask and wait for the answer, one question at a time: each read
returns the answer to its own question unless it completes before the answer does.
-/

namespace NetmonPlugins
namespace Dialogue

inductive Asks (enough : Bytes → Bool) : Dialogue β → Prop where
  | done (result : β) : Asks enough (.done result)
  | ask (message : Bytes) (next : Bool → Dialogue β) (size : Nat) (next' : Bytes → Dialogue β)
      (hread : next true = .read size enough [] next') (h : ∀ r, Asks enough (next' r))
      : Asks enough (.send message next)

def answering (replies : List Bytes) : Peer := transcript (fun _ => true) ([] :: replies)

def Framed (replies responses : List Bytes) : Prop :=
  ∀ k, k < responses.length → responses.getD k [] = replies.getD k []

/-- Between a question and the end of its answer the response and the wire make up the answer. -/
inductive Aligned (enough : Bytes → Bool) (replies : List Bytes) (s : State β) : Prop where
  | idle (hasks : Asks enough s.client) (hwire : s.wire = [])
      (hheard : s.heard.length = s.responses.length) (hframed : Framed replies s.responses)
  | reading (size : Nat) (response : Bytes) (next : Bytes → Dialogue β)
      (hclient : s.client = .read size enough response next) (hasks : ∀ r, Asks enough (next r))
      (hwire : response ++ s.wire = replies.getD s.responses.length [])
      (hheard : s.heard.length = s.responses.length + 1) (hframed : Framed replies s.responses)

variable {enough : Bytes → Bool} {replies : List Bytes} {s s' : State β} {client : Dialogue β}

theorem answering_concat (heard : List Bytes) (message : Bytes)
    : answering replies (heard ++ [message]) = replies.getD heard.length [] := by
  unfold answering
  rw [transcript_eq_getD, List.length_append, List.length_singleton, List.getD_cons_succ]

theorem Framed.concat {responses : List Bytes} (h : Framed replies responses)
    {response : Bytes} (hresponse : response = replies.getD responses.length [])
    : Framed replies (responses ++ [response]) := by
  intro k hk
  rw [List.length_append, List.length_singleton] at hk
  cases Nat.lt_succ_iff_lt_or_eq.mp hk with
  | inl hlt =>
    rw [List.getD_eq_getElem?_getD, List.getElem?_append_left hlt, ← List.getD_eq_getElem?_getD]
    exact h k hlt
  | inr heq =>
    rw [heq, List.getD_eq_getElem?_getD, List.getElem?_concat_length, hresponse]
    rfl

theorem zero_notMem_getD (hzero : ∀ reply ∈ replies, (0 : UInt8) ∉ reply) (k : Nat)
    : (0 : UInt8) ∉ replies.getD k [] := by
  rw [List.getD_eq_getElem?_getD]
  cases hget : replies[k]? with
  | none => exact List.not_mem_nil
  | some reply => exact hzero reply (List.mem_of_getElem? hget)

theorem cstr_wire {response : Bytes} (hzero : ∀ reply ∈ replies, (0 : UInt8) ∉ reply)
    (hwire : response ++ s.wire = replies.getD s.responses.length []) (n : Nat)
    : cstr (s.wire.take n) = s.wire.take n := by
  apply cstr_of_notMem
  intro hmem
  apply zero_notMem_getD hzero s.responses.length
  rw [← hwire]
  exact List.mem_append_right _ (List.mem_of_mem_take hmem)

theorem Aligned.step (hzero : ∀ reply ∈ replies, (0 : UInt8) ∉ reply)
    (h : Aligned enough replies s) {a : Action} (hprompt : Prompt s a) (hstop : NoEarlyStop s a)
    (hstep : step (answering replies) s a = some s')
    : Aligned enough replies s' := by
  cases h with
  | idle hasks hwire hheard hframed =>
    cases hclient : s.client with
    | done result =>
      rw [step_done hclient] at hstep
      contradiction
    | read size enough' response next =>
      rw [hclient] at hasks
      contradiction
    | send message next =>
      cases a with
      | send ok =>
        cases hprompt
        obtain ⟨message', next', hclient', rfl⟩ := step_accepted hstep
        rw [hclient] at hasks hclient'
        rw [Dialogue.send.injEq] at hclient'
        obtain ⟨rfl, rfl⟩ := hclient'
        cases hasks with
        | ask message next size next' hread hasks =>
          apply Aligned.reading size [] next' hread hasks
          . show [] ++ (s.wire ++ _) = _
            rw [hwire, answering_concat, hheard]
            rfl
          . show (s.heard ++ [message]).length = _
            rw [List.length_append, hheard]
            rfl
          . exact hframed
      | deliver n =>
        obtain ⟨_, _, _, _, hclient', _⟩ := step_deliver hstep
        simp [hclient] at hclient'
      | timeout =>
        obtain ⟨_, _, _, _, hclient', _⟩ := step_timeout hstep
        simp [hclient] at hclient'
  | reading size response next hclient hasks hwire hheard hframed =>
    cases step_read hclient hstep with
    | inl hdeliver =>
      obtain ⟨n, rfl, hpos, hsize, hn, rfl⟩ := hdeliver
      have hcstr := cstr_wire hzero hwire n
      unfold State.deliver
      rw [hcstr]
      cases hreceived : enough (response ++ s.wire.take n) with
      | true =>
        have hall : n = s.wire.length := by
          unfold NoEarlyStop at hstop
          rw [hclient] at hstop
          dsimp only at hstop
          rw [hcstr, hreceived] at hstop
          have : ¬ n < s.wire.length := fun hlt => Bool.noConfusion (hstop hlt)
          omega
        dsimp only
        rw [hreceived, if_pos rfl]
        apply Aligned.idle
        . exact hasks _
        . show s.wire.drop n = []
          rw [hall, List.drop_length]
        . show s.heard.length = (s.responses ++ _).length
          rw [hheard, List.length_append, List.length_singleton]
        . apply hframed.concat
          rw [hall, List.take_length, hwire]
      | false =>
        dsimp only
        rw [hreceived, if_neg Bool.false_ne_true]
        apply Aligned.reading size (response ++ s.wire.take n) next rfl hasks
        . show response ++ s.wire.take n ++ s.wire.drop n = _
          rw [List.append_assoc, List.take_append_drop, hwire]
        . exact hheard
        . exact hframed
    | inr htimeout =>
      obtain ⟨rfl, rfl⟩ := htimeout
      have hwire' : s.wire = [] := hprompt
      rw [hwire', List.append_nil] at hwire
      apply Aligned.idle
      . exact hasks _
      . exact hwire'
      . show s.heard.length = (s.responses ++ _).length
        rw [hheard, List.length_append, List.length_singleton]
      . exact hframed.concat hwire

theorem Aligned.framed (h : Aligned enough replies s) : Framed replies s.responses := by
  cases h with
  | idle _ _ _ hframed => exact hframed
  | reading _ _ _ _ _ _ _ hframed => exact hframed

theorem aligned_start (hasks : Asks enough client)
    : Aligned enough replies (start (answering replies) client) := by
  apply Aligned.idle hasks rfl rfl
  intro k hk
  contradiction

theorem not_noEarlyStop_iff {a : Action}
    : ¬ NoEarlyStop s a
        ↔
      ∃ size enough response next n, s.client = .read size enough response next ∧ a = .deliver n
        ∧ n < s.wire.length ∧ enough (response ++ cstr (s.wire.take n)) = true := by
  unfold NoEarlyStop
  cases s.client with
  | done result => simp
  | send message next => simp
  | read size enough response next =>
    cases a with
    | send ok => simp
    | deliver n => simp
    | timeout => simp

theorem Aligned.not_framed (hzero : ∀ reply ∈ replies, (0 : UInt8) ∉ reply)
    (h : Aligned enough replies s) {a : Action} (hstop : ¬ NoEarlyStop s a)
    (hstep : Dialogue.step (answering replies) s a = some s')
    : ¬ Framed replies s'.responses := by
  rw [not_noEarlyStop_iff] at hstop
  obtain ⟨size, enough', response, next, n, hclient, rfl, hn, henough⟩ := hstop
  cases h with
  | idle hasks =>
    rw [hclient] at hasks
    contradiction
  | reading size' response' next' hclient' hasks hwire hheard hframed =>
    rw [hclient', Dialogue.read.injEq] at hclient
    obtain ⟨rfl, rfl, rfl, rfl⟩ := hclient
    cases step_read hclient' hstep with
    | inr htimeout => exact Action.noConfusion htimeout.1
    | inl hdeliver =>
      obtain ⟨n', hn', _, _, _, rfl⟩ := hdeliver
      cases hn'
      intro hframed'
      unfold State.deliver at hframed'
      dsimp only at hframed'
      rw [henough, if_pos rfl, cstr_wire hzero hwire] at hframed'
      have hlast := hframed' s.responses.length (by simp [State.finish])
      have hresponse : response' ++ s.wire.take n = response' ++ s.wire := by
        rw [hwire, ← hlast]
        simp [State.finish, List.getD_eq_getElem?_getD]
      have hlength := congrArg List.length (List.append_cancel_left hresponse)
      rw [List.length_take] at hlength
      omega

theorem obeys_of_framed (hzero : ∀ reply ∈ replies, (0 : UInt8) ∉ reply) {actions : List Action}
    (h : Aligned enough replies s)
    (hprompt : Obeys (Dialogue.step (answering replies)) Prompt s actions)
    (hexec : exec (Dialogue.step (answering replies)) s actions = some s')
    (hframed : Framed replies s'.responses)
    : Obeys (Dialogue.step (answering replies)) NoEarlyStop s actions := by
  induction actions generalizing s with
  | nil => trivial
  | cons a actions ih =>
    rw [exec] at hexec
    cases hstep : Dialogue.step (answering replies) s a with
    | none =>
      rw [hstep] at hexec
      contradiction
    | some s₁ =>
      rw [hstep] at hexec
      rw [Obeys, hstep] at hprompt ⊢
      cases Decidable.em (NoEarlyStop s a) with
      | inl hstop => exact ⟨hstop, ih (h.step hzero hprompt.1 hstop hstep) hprompt.2 hexec⟩
      | inr hstop =>
        exfalso
        apply h.not_framed hzero hstop hstep
        obtain ⟨rest, hrest⟩ := responses_of_exec_prefix hexec
        intro k hk
        have := hframed k (by rw [← hrest, List.length_append]; omega)
        rwa [← hrest, List.getD_eq_getElem?_getD, List.getElem?_append_left hk,
          ← List.getD_eq_getElem?_getD] at this

theorem aligned_of_obeys (hzero : ∀ reply ∈ replies, (0 : UInt8) ∉ reply) {actions : List Action}
    (hasks : Asks enough client)
    (hprompt : Obeys (Dialogue.step (answering replies)) Prompt
      (start (answering replies) client) actions)
    (hstop : Obeys (Dialogue.step (answering replies)) NoEarlyStop
      (start (answering replies) client) actions)
    (hexec : exec (Dialogue.step (answering replies)) (start (answering replies) client) actions
      = some s)
    : Aligned enough replies s := by
  have hreach := Reaches.of_obeys actions (hprompt.and hstop) .refl hexec
  apply Reaches.invariant (aligned_start hasks) _ hreach
  intro s a s' h hok hstep
  exact h.step hzero hok.1 hok.2 hstep

theorem framed_iff (hzero : ∀ reply ∈ replies, (0 : UInt8) ∉ reply) {actions : List Action}
    (hasks : Asks enough client)
    (hprompt : Obeys (Dialogue.step (answering replies)) Prompt
      (start (answering replies) client) actions)
    (hexec : exec (Dialogue.step (answering replies)) (start (answering replies) client) actions
      = some s)
    : Framed replies s.responses
        ↔
      Obeys (Dialogue.step (answering replies)) NoEarlyStop
        (start (answering replies) client) actions := by
  constructor
  . intro hframed
    exact obeys_of_framed hzero (aligned_start hasks) hprompt hexec hframed
  . intro hstop
    exact (aligned_of_obeys hzero hasks hprompt hstop hexec).framed

theorem Framed.take_pad {responses : List Bytes} (h : Framed replies responses)
    : (replies ++ List.replicate responses.length []).take responses.length = responses := by
  apply List.ext_getElem?
  intro k
  rw [List.getElem?_take]
  split
  . next hk =>
    have hresponse := h k hk
    rw [List.getD_eq_getElem?_getD, List.getD_eq_getElem?_getD, List.getElem?_eq_getElem hk]
      at hresponse
    rw [List.getElem?_eq_getElem hk]
    cases Nat.lt_or_ge k replies.length with
    | inl hlt =>
      rw [List.getElem?_append_left hlt]
      rw [List.getElem?_eq_getElem hlt] at hresponse ⊢
      rw [Option.some.injEq]
      exact hresponse.symm
    | inr hge =>
      rw [List.getElem?_append_right hge, List.getElem?_replicate, if_pos (by omega)]
      rw [List.getElem?_eq_none hge] at hresponse
      rw [Option.some.injEq]
      exact hresponse.symm
  . next hk =>
    symm
    apply List.getElem?_eq_none
    omega

theorem Framed.result {result : β} (hframed : Framed replies s.responses)
    (hreach : Reaches (Dialogue.step (answering replies)) Prompt
      (start (answering replies) client) s)
    (hdone : s.client = .done result)
    : result = client.play [] replies := by
  have hplay := play_of_reaches hreach []
    ((replies ++ List.replicate s.responses.length []).drop s.responses.length)
  have hjoin : s.responses ++ (replies ++ List.replicate s.responses.length []).drop
      s.responses.length = replies ++ List.replicate s.responses.length [] := by
    calc
      _ = (replies ++ List.replicate s.responses.length []).take s.responses.length
            ++ (replies ++ List.replicate s.responses.length []).drop s.responses.length := by
        rw [hframed.take_pad]
      _ = _ := List.take_append_drop _ _
  rw [hjoin, hdone, play_done, List.append_nil, play_of_sent _ _ _ (fates_of_prompt hreach),
    play_pad] at hplay
  exact hplay.symm

end Dialogue
end NetmonPlugins

import NetmonPlugins.Common.Icmp.Lemmas
import NetmonPlugins.Run.Basic
import Mathlib.Data.Finset.Card

/-!
This module contains a run of the probe loop against the network: hosts send ICMP datagrams, the
network delivers them to the raw socket in any order and any number of times, and the loop takes
whatever datagram stands first in the queue of the socket for the reply it waits for.
-/

namespace NetmonPlugins
namespace Icmp

structure Datagram where
  source : UInt32
  type : UInt8
  code : UInt8
  id : UInt16
  seq : UInt16
  deriving DecidableEq

/-- What is fixed during a run; `id` is the process id as the packet carries it. -/
structure EchoRun where
  target : UInt32
  id : UInt16
  count : Nat

structure State where
  -- All datagrams any host has sent so far.
  sent : List Datagram := []
  queue : List Datagram := []
  -- The datagrams the loop has counted, oldest first.
  taken : List Datagram := []
  waiting : Bool := false
  -- How the finished probes went; the index of the loop is their number.
  outcomes : List Probe := []
  deriving DecidableEq

inductive Action where
  | emit (d : Datagram)
  | deliver (d : Datagram)
  | sendFails
  | send
  | waitFails
  | receive (startTime endTime : Timeval)
  deriving DecidableEq

def State.finish (s : State) (outcome : Probe) : State :=
  { s with waiting := false, outcomes := s.outcomes ++ [outcome] }

def step (run : EchoRun) (s : State) : Action → Option State
  | .emit d => some { s with sent := d :: s.sent }
  | .deliver d => if d ∈ s.sent then some { s with queue := s.queue ++ [d] } else none
  | .sendFails =>
    if s.waiting = false ∧ s.outcomes.length < run.count then
      some (s.finish .sendFailed)
    else
      none
  | .send =>
    if s.waiting = false ∧ s.outcomes.length < run.count then
      some { s with waiting := true }
    else
      none
  | .waitFails => if s.waiting then some (s.finish .noReply) else none
  | .receive startTime endTime =>
    if s.waiting then
      match s.queue with
      | [] => none
      -- The address, the type, the identifier and the sequence number are not looked at.
      | d :: queue =>
        some ({ s with queue := queue, taken := s.taken ++ [d] }.finish (.reply startTime endTime))
    else
      none

def State.network (s : State) : Network where
  socketOpens := true
  resolves := true
  probe i := s.outcomes.getD i .noReply

def State.totals (s : State) : Totals := probeLoop s.network.probe s.outcomes.length

def EchoRun.IsReply (run : EchoRun) (d : Datagram) : Prop :=
  d.source = run.target ∧ d.type = 0 ∧ d.code = 0 ∧ d.id = run.id
    ∧ ∃ i < run.count, d.seq = UInt16.ofNat i

instance (run : EchoRun) : DecidablePred run.IsReply := fun d =>
  inferInstanceAs (Decidable (_ ∧ _ ∧ _ ∧ _ ∧ ∃ i < run.count, d.seq = UInt16.ofNat i))

def EchoRun.answered (run : EchoRun) (s : State) : Finset UInt16 :=
  ((s.sent.filter fun d => run.IsReply d).map (·.seq)).toFinset

def EchoRun.CountsReply (run : EchoRun) (s : State) (a : Action) : Prop :=
  ∀ startTime endTime d queue, a = .receive startTime endTime → s.queue = d :: queue
    → run.IsReply d ∧ d.seq ∉ s.taken.map (·.seq)

theorem totals_finish (s : State) (outcome : Probe)
    : (s.finish outcome).totals = s.totals.add outcome := by
  unfold State.totals
  have hlen : (s.finish outcome).outcomes.length = s.outcomes.length + 1 := by
    simp [State.finish]
  rw [hlen, probeLoop]
  have hlast : (s.finish outcome).network.probe s.outcomes.length = outcome := by
    simp [State.finish, State.network]
  rw [hlast]
  congr 1
  apply probeLoop_congr
  intro i hi
  simp [State.finish, State.network, List.getElem?_append_left hi]

structure Inv (run : EchoRun) (s : State) : Prop where
  queue_sent : ∀ d ∈ s.queue, d ∈ s.sent
  taken_sent : ∀ d ∈ s.taken, d ∈ s.sent
  taken_reply : ∀ d ∈ s.taken, run.IsReply d
  taken_nodup : (s.taken.map (·.seq)).Nodup
  packetsReceived_eq : s.totals.packetsReceived = s.taken.length

theorem Inv.init (run : EchoRun) : Inv run {} where
  queue_sent := by simp
  taken_sent := by simp
  taken_reply := by simp
  taken_nodup := by simp
  packetsReceived_eq := rfl

theorem Inv.emit {run : EchoRun} {s : State} (h : Inv run s) (d : Datagram)
    : Inv run { s with sent := d :: s.sent } where
  queue_sent := by
    intro e he
    apply List.mem_cons_of_mem _ (h.queue_sent e he)
  taken_sent := by
    intro e he
    apply List.mem_cons_of_mem _ (h.taken_sent e he)
  taken_reply := h.taken_reply
  taken_nodup := h.taken_nodup
  packetsReceived_eq := h.packetsReceived_eq

theorem Inv.deliver {run : EchoRun} {s : State} (h : Inv run s) {d : Datagram} (hd : d ∈ s.sent)
    : Inv run { s with queue := s.queue ++ [d] } where
  queue_sent := by
    intro e he
    rw [List.mem_append, List.mem_singleton] at he
    cases he with
    | inl he => apply h.queue_sent e he
    | inr he =>
      rw [he]
      exact hd
  taken_sent := h.taken_sent
  taken_reply := h.taken_reply
  taken_nodup := h.taken_nodup
  packetsReceived_eq := h.packetsReceived_eq

theorem Inv.send {run : EchoRun} {s : State} (h : Inv run s)
    : Inv run { s with waiting := true } where
  queue_sent := h.queue_sent
  taken_sent := h.taken_sent
  taken_reply := h.taken_reply
  taken_nodup := h.taken_nodup
  packetsReceived_eq := h.packetsReceived_eq

theorem Inv.finish {run : EchoRun} {s : State} (h : Inv run s) {outcome : Probe}
    (hreply : outcome.isReply = false)
    : Inv run (s.finish outcome) where
  queue_sent := h.queue_sent
  taken_sent := h.taken_sent
  taken_reply := h.taken_reply
  taken_nodup := h.taken_nodup
  packetsReceived_eq := by
    rw [totals_finish, Totals.add_of_not_isReply _ _ hreply]
    apply h.packetsReceived_eq

theorem Inv.receive {run : EchoRun} {s : State} (h : Inv run s) {d : Datagram}
    {queue : List Datagram} (hqueue : s.queue = d :: queue) (hreply : run.IsReply d)
    (hseq : d.seq ∉ s.taken.map (·.seq)) (startTime endTime : Timeval)
    : Inv run
        ({ s with queue := queue, taken := s.taken ++ [d] }.finish (.reply startTime endTime)) where
  queue_sent := by
    intro e he
    apply h.queue_sent
    rw [hqueue]
    apply List.mem_cons_of_mem _ he
  taken_sent := by
    intro e he
    simp only [State.finish, List.mem_append, List.mem_singleton] at he
    cases he with
    | inl he => apply h.taken_sent e he
    | inr he =>
      apply h.queue_sent
      simp [hqueue, he]
  taken_reply := by
    intro e he
    simp only [State.finish, List.mem_append, List.mem_singleton] at he
    cases he with
    | inl he => apply h.taken_reply e he
    | inr he =>
      rw [he]
      exact hreply
  taken_nodup := by
    simp only [State.finish, List.map_append, List.map_cons, List.map_nil]
    rw [List.nodup_append]
    refine ⟨h.taken_nodup, by simp, ?_⟩
    intro a ha b hb hab
    rw [List.mem_singleton] at hb
    rw [hab, hb] at ha
    exact hseq ha
  packetsReceived_eq := by
    rw [totals_finish]
    have := h.packetsReceived_eq
    simp only [State.totals, State.network, Totals.add, State.finish, List.length_append,
      List.length_cons, List.length_nil] at this ⊢
    rw [this]
    rfl

theorem Inv.step {run : EchoRun} {s s' : State} {a : Action} (h : Inv run s)
    (hcounts : run.CountsReply s a) (hstep : step run s a = some s')
    : Inv run s' := by
  cases a with
  | emit d =>
    simp only [Icmp.step, Option.some.injEq] at hstep
    rw [← hstep]
    apply h.emit
  | deliver d =>
    simp only [Icmp.step, Option.ite_none_right_eq_some, Option.some.injEq] at hstep
    rw [← hstep.2]
    apply h.deliver hstep.1
  | sendFails =>
    simp only [Icmp.step, Option.ite_none_right_eq_some, Option.some.injEq] at hstep
    rw [← hstep.2]
    apply h.finish rfl
  | send =>
    simp only [Icmp.step, Option.ite_none_right_eq_some, Option.some.injEq] at hstep
    rw [← hstep.2]
    apply h.send
  | waitFails =>
    simp only [Icmp.step, Option.ite_none_right_eq_some, Option.some.injEq] at hstep
    rw [← hstep.2]
    apply h.finish rfl
  | receive startTime endTime =>
    simp only [Icmp.step, Option.ite_none_right_eq_some] at hstep
    obtain ⟨_, hstep⟩ := hstep
    split at hstep
    . contradiction
    . next d queue hqueue =>
      rw [Option.some.injEq] at hstep
      rw [← hstep]
      have ⟨hreply, hseq⟩ := hcounts startTime endTime d queue rfl hqueue
      apply h.receive hqueue hreply hseq

theorem Inv.of_reaches {run : EchoRun} {s : State}
    (h : Reaches (Icmp.step run) run.CountsReply {} s)
    : Inv run s := by
  apply Reaches.invariant (Inv.init run) _ h
  intro s a s' hinv hcounts hstep
  apply hinv.step hcounts hstep

theorem Inv.packetsReceived_le {run : EchoRun} {s : State} (h : Inv run s)
    : s.totals.packetsReceived ≤ (run.answered s).card := by
  have hsubset : (s.taken.map (·.seq)).toFinset ⊆ run.answered s := by
    intro seq hseq
    unfold EchoRun.answered
    simp only [List.mem_toFinset, List.mem_map, List.mem_filter, decide_eq_true_eq] at hseq ⊢
    obtain ⟨d, hd, hdseq⟩ := hseq
    exact ⟨d, ⟨h.taken_sent d hd, h.taken_reply d hd⟩, hdseq⟩
  have hcard := Finset.card_le_card hsubset
  rw [List.toFinset_card_of_nodup h.taken_nodup, List.length_map] at hcard
  rw [h.packetsReceived_eq]
  exact_mod_cast hcard

end Icmp
end NetmonPlugins

import NetmonPlugins.Cxx.Bytes
import NetmonPlugins.Run.Basic

/-!
This module contains clients of an unconnected datagram socket and their runs: whoever knows the
port can send to it, and what arrives is queued in the order it arrives in. The result depends on
nothing but the fates of the messages and what the receives have taken.
-/

namespace NetmonPlugins

inductive Receiver (α : Type u) (β : Type v) where
  | done (result : β)
  -- What follows depends on whether the whole message was taken.
  | sendto (target : α) (message : Bytes) (next : Bool → Receiver α β)
  -- A datagram is cut at the size of the buffer; `none` is an error or a timeout.
  | recvfrom (size : Nat) (next : Option Bytes → Receiver α β)

namespace Receiver

structure Datagram (α : Type u) where
  source : α
  data : Bytes
  deriving DecidableEq

def map (f : β → γ) : Receiver α β → Receiver α γ
  | .done result => .done (f result)
  | .sendto target message next => .sendto target message fun sent => (next sent).map f
  | .recvfrom size next => .recvfrom size fun data => (next data).map f

structure State (α : Type u) (β : Type v) where
  client : Receiver α β
  queue : List (Datagram α)
  -- What the receives have taken from the queue.
  received : List (Option (Datagram α))

inductive Action (α : Type u) where
  | arrive (datagram : Datagram α)
  | send (sent : Bool)
  | receive
  | timeout

def start (client : Receiver α β) : State α β := { client := client, queue := [], received := [] }

def step (s : State α β) (a : Action α) : Option (State α β) :=
  match a, s.client with
  | .arrive datagram, _ => some { s with queue := s.queue ++ [datagram] }
  | .send sent, .sendto _ _ next => some { s with client := next sent }
  | .receive, .recvfrom size next =>
    match s.queue with
    | [] => none
    | datagram :: queue =>
      some {
        client := next (some (datagram.data.take size))
        queue := queue
        received := s.received ++ [some datagram] }
  | .timeout, .recvfrom _ next =>
    some { s with client := next none, received := s.received ++ [none] }
  | _, _ => none

theorem step_cases {s s' : State α β} {a : Action α} (h : step s a = some s')
    : (s'.client = s.client ∧ s'.received = s.received)
        ∨ (∃ target message next sent, s.client = .sendto target message next
          ∧ s'.client = next sent ∧ s'.received = s.received)
        ∨ ∃ size next taken, s.client = .recvfrom size next
          ∧ s'.client = next (taken.map fun datagram => datagram.data.take size)
          ∧ s'.received = s.received ++ [taken] := by
  unfold step at h
  split at h
  . rw [Option.some.injEq] at h
    subst h
    exact .inl ⟨rfl, rfl⟩
  . next sent target message next hclient =>
    rw [Option.some.injEq] at h
    subst h
    exact .inr (.inl ⟨target, message, next, sent, hclient, rfl, rfl⟩)
  . next size next hclient =>
    split at h
    . contradiction
    . next datagram queue hqueue =>
      rw [Option.some.injEq] at h
      subst h
      exact .inr (.inr ⟨size, next, some datagram, hclient, rfl, rfl⟩)
  . next size next hclient =>
    rw [Option.some.injEq] at h
    subst h
    exact .inr (.inr ⟨size, next, none, hclient, rfl, rfl⟩)
  . contradiction

theorem map_id (client : Receiver α β) : client.map id = client := by
  induction client with
  | done result => rfl
  | sendto target message next ih =>
    rw [map, Receiver.sendto.injEq]
    exact ⟨rfl, rfl, funext ih⟩
  | recvfrom size next ih =>
    rw [map, Receiver.recvfrom.injEq]
    exact ⟨rfl, funext ih⟩

/-- A run that ends with this result after these receives. -/
def Ends (client : Receiver α β) (received : List (Option (Datagram α))) (result : β) : Prop :=
  ∃ s, Reaches step (fun _ _ => True) (start client) s ∧ s.client = .done result
    ∧ s.received = received

theorem Ends.of_exec {client : Receiver α β} (actions : List (Action α)) {s : State α β}
    {received : List (Option (Datagram α))} {result : β}
    (h : exec step (start client) actions = some s) (hdone : s.client = .done result)
    (hreceived : s.received = received)
    : Ends client received result :=
  ⟨s, .of_exec actions (fun _ _ => trivial) .refl h, hdone, hreceived⟩

variable {α : Type u} {β : Type v} {γ : Type w}

/-- The client ends with this result when its receives take these. -/
inductive Plays : Receiver α β → List (Option (Datagram α)) → β → Prop where
  | done (result : β) : Plays (.done result) [] result
  | sendto {target : α} {message : Bytes} {next : Bool → Receiver α β}
      {received : List (Option (Datagram α))} {result : β} (sent : Bool)
      (h : Plays (next sent) received result)
      : Plays (.sendto target message next) received result
  | recvfrom {size : Nat} {next : Option Bytes → Receiver α β}
      {received : List (Option (Datagram α))} {result : β} (taken : Option (Datagram α))
      (h : Plays (next (taken.map fun datagram => datagram.data.take size)) received result)
      : Plays (.recvfrom size next) (taken :: received) result

variable {client : Receiver α β} {received : List (Option (Datagram α))} {result : β}

theorem plays_of_step {s s' : State α β} {a : Action α} (h : step s a = some s')
    (hplays : Plays s'.client received result)
    : ∃ taken, s'.received = s.received ++ taken ∧ Plays s.client (taken ++ received) result := by
  rcases step_cases h with ⟨hclient, hreceived⟩
    | ⟨target, message, next, sent, hsendto, hclient, hreceived⟩
    | ⟨size, next, taken, hrecvfrom, hclient, hreceived⟩
  . refine ⟨[], by rw [hreceived, List.append_nil], ?_⟩
    rwa [← hclient]
  . refine ⟨[], by rw [hreceived, List.append_nil], ?_⟩
    rw [hsendto]
    rw [hclient] at hplays
    exact .sendto sent hplays
  . refine ⟨[taken], hreceived, ?_⟩
    rw [hrecvfrom]
    rw [hclient] at hplays
    exact .recvfrom taken hplays

theorem plays_of_reaches {ok : State α β → Action α → Prop} {s : State α β}
    (h : Reaches step ok (start client) s) (hplays : Plays s.client received result)
    : Plays client (s.received ++ received) result := by
  induction h generalizing received with
  | refl => exact hplays
  | tail a hreach hok hstep ih =>
    obtain ⟨taken, hreceived, hplays⟩ := plays_of_step hstep hplays
    rw [hreceived, List.append_assoc]
    exact ih hplays

theorem plays_of_ends (h : Ends client received result) : Plays client received result := by
  obtain ⟨s, hreach, hdone, rfl⟩ := h
  have hplays : Plays s.client [] result := by
    rw [hdone]
    exact .done result
  have := plays_of_reaches hreach hplays
  rwa [List.append_nil] at this

theorem plays_map_iff {f : β → γ} {result : γ}
    : Plays (client.map f) received result
        ↔
      ∃ result', Plays client received result' ∧ result = f result' := by
  constructor
  . intro h
    induction client generalizing received with
    | done result' =>
      cases h
      exact ⟨result', .done result', rfl⟩
    | sendto target message next ih =>
      cases h with
      | sendto sent h =>
        obtain ⟨result', hplays, rfl⟩ := ih sent h
        exact ⟨result', .sendto sent hplays, rfl⟩
    | recvfrom size next ih =>
      cases h with
      | recvfrom taken h =>
        obtain ⟨result', hplays, rfl⟩ := ih _ h
        exact ⟨result', .recvfrom taken hplays, rfl⟩
  . rintro ⟨result', hplays, rfl⟩
    induction hplays with
    | done result' => exact .done (f result')
    | sendto sent _ ih => exact .sendto sent ih
    | recvfrom taken _ ih => exact .recvfrom taken ih

end Receiver
end NetmonPlugins

import NetmonPlugins.Cxx.Bytes
import NetmonPlugins.Run.Basic

/-!
This module contains clients of a byte stream and their runs against a peer. The network may cut
what the peer says at any byte and deliver it at any time; the peer speaks when the client connects
and after each message.
-/

namespace NetmonPlugins

inductive Dialogue (β : Type u) where
  | done (result : β)
  -- What follows depends on whether the message could be sent.
  | send (message : Bytes) (next : Bool → Dialogue β)
  -- Receives of at most `size` bytes are appended to `response` until it is `enough`.
  | read (size : Nat) (enough : Bytes → Bool) (response : Bytes) (next : Bytes → Dialogue β)

/-- What the peer says when it has heard the last of these messages. -/
abbrev Peer := List Bytes → Bytes

namespace Dialogue

def bind : Dialogue α → (α → Dialogue β) → Dialogue β
  | .done result, f => f result
  | .send message next, f => .send message fun ok => (next ok).bind f
  | .read size enough response next, f => .read size enough response fun r => (next r).bind f

instance : Monad Dialogue where
  pure := .done
  bind := bind

@[simp]
theorem pure_eq_done (result : β) : (pure result : Dialogue β) = .done result := rfl

@[simp]
theorem done_bind (result : α) (f : α → Dialogue β) : (.done result >>= f) = f result := rfl

@[simp]
theorem send_bind (message : Bytes) (next : Bool → Dialogue α) (f : α → Dialogue β)
    : (.send message next >>= f) = .send message fun ok => next ok >>= f := rfl

@[simp]
theorem read_bind (size : Nat) (enough : Bytes → Bool) (response : Bytes)
    (next : Bytes → Dialogue α) (f : α → Dialogue β)
    : (.read size enough response next >>= f)
        =
      .read size enough response fun r => next r >>= f := rfl

/--
The result when the messages have these fates and the reads return these responses. Behind the end
of the lists a message is sent and a read returns nothing.
-/
def play : Dialogue β → List Bool → List Bytes → β
  | .done result, _, _ => result
  | .send _ next, [], responses => (next true).play [] responses
  | .send _ next, ok :: fates, responses => (next ok).play fates responses
  | .read _ _ _ next, fates, [] => (next []).play fates []
  | .read _ _ _ next, fates, response :: responses => (next response).play fates responses

structure State (β : Type u) where
  client : Dialogue β
  -- The messages that were sent.
  heard : List Bytes
  -- What the peer has said and the client has not received.
  wire : Bytes
  fates : List Bool
  responses : List Bytes

inductive Action where
  | send (ok : Bool)
  | deliver (n : Nat)
  -- Nothing comes within the timeout, or the peer has closed the connection.
  | timeout
  deriving DecidableEq

def start (peer : Peer) (client : Dialogue β) : State β :=
  { client := client, heard := [], wire := peer [], fates := [], responses := [] }

def State.finish (s : State β) (next : Bytes → Dialogue β) (response : Bytes) : State β :=
  { s with client := next response, responses := s.responses ++ [response] }

def State.deliver (s : State β) (n size : Nat) (enough : Bytes → Bool) (response : Bytes)
    (next : Bytes → Dialogue β) : State β :=
  -- `buffer[bytes] = '\0'; response += buffer;`
  let received := response ++ cstr (s.wire.take n)
  if enough received then
    { s with wire := s.wire.drop n }.finish next received
  else
    { s with client := .read size enough received next, wire := s.wire.drop n }

def step (peer : Peer) (s : State β) (a : Action) : Option (State β) :=
  match s.client, a with
  | .send message next, .send true =>
    let heard := s.heard ++ [message]
    some { s with
      client := next true
      heard := heard
      wire := s.wire ++ peer heard
      fates := s.fates ++ [true] }
  | .send _ next, .send false =>
    some { s with client := next false, fates := s.fates ++ [false] }
  | .read size enough response next, .deliver n =>
    if 0 < n ∧ n ≤ size ∧ n ≤ s.wire.length then
      some (s.deliver n size enough response next)
    else
      none
  | .read _ _ response next, .timeout => some (s.finish next response)
  | _, _ => none

def result? : Dialogue β → Option β
  | .done result => some result
  | _ => none

def outcome (peer : Peer) (client : Dialogue β) (actions : List Action) : Option β :=
  (exec (step peer) (start peer client) actions).bind (·.client.result?)

/-- A timeout passes only where nothing is on the way, and every message can be sent. -/
def Prompt (s : State β) : Action → Prop
  | .send ok => ok = true
  | .deliver _ => True
  | .timeout => s.wire = []

/-- No receive that leaves a part of what was said on the wire completes its read. -/
def NoEarlyStop (s : State β) (a : Action) : Prop :=
  match s.client, a with
  | .read _ enough response _, .deliver n =>
    n < s.wire.length → enough (response ++ cstr (s.wire.take n)) = false
  | _, _ => True

instance (s : State β) (a : Action) : Decidable (Prompt s a) := by
  unfold Prompt
  split <;> infer_instance

instance (s : State β) (a : Action) : Decidable (NoEarlyStop s a) := by
  unfold NoEarlyStop
  split <;> infer_instance

theorem result?_eq_some_iff (client : Dialogue β) (result : β)
    : client.result? = some result ↔ client = .done result := by
  cases client <;> simp [result?]

theorem outcome_eq_some_iff (peer : Peer) (client : Dialogue β) (actions : List Action) (result : β)
    : outcome peer client actions = some result
        ↔
      ∃ s, exec (step peer) (start peer client) actions = some s ∧ s.client = .done result := by
  unfold outcome
  simp only [Option.bind_eq_some_iff, result?_eq_some_iff]

end Dialogue
end NetmonPlugins

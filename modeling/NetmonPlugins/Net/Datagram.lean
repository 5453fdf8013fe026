import NetmonPlugins.Cxx.Bytes
import NetmonPlugins.Run.Basic

/-!
This module contains clients of a datagram socket and their runs against a peer. The network may
lose a message, and it may deliver what the peer has sent in any order.
-/

namespace NetmonPlugins

inductive Exchange (β : Type u) where
  | done (result : β)
  | sendto (message : Bytes) (next : Exchange β)
  -- A datagram is cut at the size of the buffer; `none` is an error or a timeout.
  | recvfrom (size : Nat) (next : Option Bytes → Exchange β)

namespace Exchange

def map (f : α → β) : Exchange α → Exchange β
  | .done result => .done (f result)
  | .sendto message next => .sendto message (next.map f)
  | .recvfrom size next => .recvfrom size fun received => (next received).map f

structure State (β : Type u) where
  client : Exchange β
  heard : List Bytes
  -- The datagrams of the peer that are on the way.
  inFlight : List Bytes

inductive Action where
  | send (lost : Bool)
  | deliver (k : Nat)
  | timeout
  deriving DecidableEq

def start (peer : List Bytes → List Bytes) (client : Exchange β) : State β :=
  { client := client, heard := [], inFlight := peer [] }

def step (peer : List Bytes → List Bytes) (s : State β) (a : Action) : Option (State β) :=
  match s.client, a with
  | .sendto message next, .send lost =>
    if lost then
      some { s with client := next }
    else
      let heard := s.heard ++ [message]
      some { client := next, heard := heard, inFlight := s.inFlight ++ peer heard }
  | .recvfrom size next, .deliver k =>
    match s.inFlight[k]? with
    | some datagram =>
      some { s with
        client := next (some (datagram.take size))
        inFlight := s.inFlight.eraseIdx k }
    | none => none
  | .recvfrom _ next, .timeout => some { s with client := next none }
  | _, _ => none

/-- A timeout passes only where nothing is on the way, and no message is lost. -/
def Prompt (s : State β) : Action → Prop
  | .send lost => lost = false
  | .deliver _ => True
  | .timeout => s.inFlight = []

def result? : Exchange β → Option β
  | .done result => some result
  | _ => none

def outcome (peer : List Bytes → List Bytes) (client : Exchange β) (actions : List Action)
    : Option β :=
  (exec (step peer) (start peer client) actions).bind (·.client.result?)

end Exchange
end NetmonPlugins

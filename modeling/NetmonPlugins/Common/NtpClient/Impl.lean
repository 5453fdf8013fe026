import NetmonPlugins.Common.Plugin
import NetmonPlugins.Common.Socket
import NetmonPlugins.Net.Mailbox

/-!
This module contains `queryNtpOffset` of the NTP client, `queryTimeProtocolOffset`, which asks for
the time in whole seconds, and the ladder over the offset that `check_ntp`, `check_ntp_time` and
`check_time` share by copy.
-/

namespace NetmonPlugins

structure NtpQueryResult where
  ok : Bool := false
  offset_seconds : Double := 0
  stratum : Int := 0
  error : Bytes := []
  deriving DecidableEq

def timevalToSeconds (tv : Timeval) : Double := .ofInt tv.tv_sec + .ofInt tv.tv_usec / 1000000

def ntpTimestampToUnix (sec frac : UInt32) : Double :=
  (.ofInt sec.toNat - 2208988800) + .ofInt frac.toNat / 4294967296

namespace queryNtpOffset

/-- An address of the server, and whether a socket can be made for its family. -/
structure Candidate (α : Type u) where
  address : α
  socket : Bool

/-- What the calls of the system return that are not about datagrams. -/
structure System (α : Type u) where
  -- An error is what `gai_strerror` says about it; at least one address is returned otherwise.
  getaddrinfo : Bytes → Int → Except Bytes (Candidate α × List (Candidate α))
  setSocketTimeout : Int → Bool
  sendTime : Option Timeval
  recvTime : Option Timeval

def createUdpSocket (system : System α) (host : Bytes) (port : Int) : Except Bytes α :=
  match system.getaddrinfo host port with
  | .error text => .error (str "Cannot resolve hostname: " ++ text)
  | .ok (first, others) =>
    match (first :: others).find? (·.socket) with
    | some candidate => .ok candidate.address
    | none => .error (str "Cannot create UDP socket")

-- LI = 0, VN = 3, Mode = 3 (client)
def packet : Bytes := 27 :: List.replicate 47 0

def word (response : Bytes) (i : Nat) : UInt32 :=
  (response.getD i 0).toUInt32 <<< 24 ||| (response.getD (i + 1) 0).toUInt32 <<< 16
    ||| (response.getD (i + 2) 0).toUInt32 <<< 8 ||| (response.getD (i + 3) 0).toUInt32

def clockOffset (sendTime recvTime : Timeval) (response : Bytes) : Double :=
  let serverTime := ntpTimestampToUnix (word response 40) (word response 44)
  let localMidpoint := (timevalToSeconds sendTime + timevalToSeconds recvTime) / 2
  localMidpoint - serverTime

def evaluate (sendTime recvTime : Timeval) (response : Bytes) : NtpQueryResult :=
  { ok := true
    stratum := (response.getD 1 0).toNat
    offset_seconds := clockOffset sendTime recvTime response }

def receive (system : System α) (sendTime : Timeval) (received : Option Bytes) : NtpQueryResult :=
  match system.recvTime with
  | none => { error := str "Failed to read local time" }
  | some recvTime =>
    match received with
    | none => { error := str "No NTP response received" }
    | some response =>
      if response.length < 48 then
        { error := str "No NTP response received" }
      else
        evaluate sendTime recvTime response

end queryNtpOffset

open queryNtpOffset in
def queryNtpOffset (system : System α) (host : Bytes) (port timeoutSeconds : Int)
    : Receiver α NtpQueryResult :=
  match createUdpSocket system host port with
  | .error error => .done { error := error }
  | .ok addr =>
    if !system.setSocketTimeout timeoutSeconds then
      .done { error := str "Failed to set socket timeout" }
    else
      match system.sendTime with
      | none => .done { error := str "Failed to read local time" }
      | some sendTime =>
        .sendto addr packet fun sent =>
          if !sent then
            .done { error := str "Failed to send NTP request" }
          else
            -- The source of the datagram is not asked for.
            .recvfrom 48 fun received => .done (receive system sendTime received)

/-- A threshold of zero or less is not set. -/
def offsetCode (warningOffset criticalOffset offset : Double) : ExitCode :=
  if criticalOffset > 0 ∧ offset.abs > criticalOffset then
    .critical
  else if warningOffset > 0 ∧ offset.abs > warningOffset then
    .warning
  else
    .ok

namespace queryTimeProtocolOffset

open queryNtpOffset

def serverTime (response : Bytes) : Double := ntpTimestampToUnix (word response 0) 0

def clockOffset (sendTime recvTime : Timeval) (response : Bytes) : Double :=
  let localMidpoint := (timevalToSeconds sendTime + timevalToSeconds recvTime) / 2
  localMidpoint - serverTime response

def receive (system : System α) (sendTime : Timeval) (received : Option Bytes) : NtpQueryResult :=
  match system.recvTime with
  | none => { error := str "Failed to read local time" }
  | some recvTime =>
    match received with
    | none => { error := str "No time protocol response received" }
    | some response =>
      if response.length < 4 then
        { error := str "No time protocol response received" }
      else
        { ok := true, offset_seconds := clockOffset sendTime recvTime response }

end queryTimeProtocolOffset

open queryNtpOffset in
def queryTimeProtocolOffset (system : System α) (host : Bytes) (port timeoutSeconds : Int)
    : Receiver α NtpQueryResult :=
  match createUdpSocket system host port with
  | .error error => .done { error := error }
  | .ok addr =>
    if !system.setSocketTimeout timeoutSeconds then
      .done { error := str "Failed to set socket timeout" }
    else
      match system.sendTime with
      | none => .done { error := str "Failed to read local time" }
      | some sendTime =>
        .sendto addr [0] fun sent =>
          if !sent then
            .done { error := str "Failed to send time protocol request" }
          else
            .recvfrom 4 fun received =>
              .done (queryTimeProtocolOffset.receive system sendTime received)

end NetmonPlugins

import NetmonPlugins.Common.Socket
import NetmonPlugins.Cxx.Numeric

/-!
This module contains the probe loop that `check_ping` and `check_fping` each have a copy of. The
round-trip times are exact.
-/

namespace NetmonPlugins
namespace Icmp

inductive Probe where
  | sendFailed
  -- `select` reports nothing to read, or `recvfrom` fails.
  | noReply
  | reply (startTime endTime : Timeval)
  deriving DecidableEq

structure PingResult where
  packetsSent : Int
  packetsReceived : Int
  minRTT : Double
  maxRTT : Double
  avgRTT : Double
  packetLoss : Double
  deriving DecidableEq

structure Totals where
  packetsReceived : Int := 0
  totalRTT : ℚ := 0
  minRTT : ℚ := 999999
  maxRTT : ℚ := 0
  deriving DecidableEq

def rtt (startTime endTime : Timeval) : ℚ :=
  (endTime.tv_sec - startTime.tv_sec : ℤ) * 1000
    + (endTime.tv_usec - startTime.tv_usec : ℤ) / 1000

def Totals.add (totals : Totals) : Probe → Totals
  | .sendFailed => totals
  | .noReply => totals
  | .reply startTime endTime =>
    let rtt := rtt startTime endTime
    { packetsReceived := totals.packetsReceived + 1
      totalRTT := totals.totalRTT + rtt
      minRTT := if rtt < totals.minRTT then rtt else totals.minRTT
      maxRTT := if rtt > totals.maxRTT then rtt else totals.maxRTT }

def probeLoop (probe : Nat → Probe) : Nat → Totals
  | 0 => {}
  | n + 1 => (probeLoop probe n).add (probe n)

def Totals.result (totals : Totals) (count : Int) : PingResult where
  packetsSent := count
  packetsReceived := totals.packetsReceived
  minRTT := if totals.packetsReceived > 0 then .fin totals.minRTT else 0
  maxRTT := if totals.packetsReceived > 0 then .fin totals.maxRTT else 0
  avgRTT :=
    if totals.packetsReceived > 0 then
      .fin totals.totalRTT / .ofInt totals.packetsReceived
    else
      0
  -- The loss of no packet at all is a NaN.
  packetLoss := (.ofInt (count - totals.packetsReceived) * 100) / .ofInt count

structure Network where
  socketOpens : Bool
  resolves : Bool
  probe : Nat → Probe

def pingHost (network : Network) (host : Bytes) (count : Int) : Except StdException PingResult :=
  if !network.socketOpens then
    .error (.runtimeError (str "Failed to create ICMP socket (requires root privileges)"))
  else if !network.resolves then
    .error (.runtimeError (str "Failed to resolve hostname: " ++ host))
  else
    .ok ((probeLoop network.probe count.toNat).result count)

end Icmp
end NetmonPlugins

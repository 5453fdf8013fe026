import NetmonPlugins.Common.Icmp.Lemmas
import NetmonPlugins.Common.Icmp.Statistics
import NetmonPlugins.Plugins.Ping.Impl

/-!
This module contains the probe loop of `check_ping` over the system calls it makes, and what its
statistics say about the probes.
-/

namespace NetmonPlugins
namespace PingPlugin

open Icmp

def iterate (timeoutSeconds : Int) (exchange : Exchange) (totals : Totals) : Totals :=
  if exchange.sent then
    if exchange.select timeoutSeconds then
      if exchange.received then
        let rtt := rtt exchange.startTime exchange.endTime
        { packetsReceived := totals.packetsReceived + 1
          totalRTT := totals.totalRTT + rtt
          minRTT := if rtt < totals.minRTT then rtt else totals.minRTT
          maxRTT := if rtt > totals.maxRTT then rtt else totals.maxRTT }
      else
        totals
    else
      totals
  else
    totals

def iterations (wire : Wire) (timeoutSeconds : Int) : Nat → Totals
  | 0 => { packetsReceived := 0, totalRTT := 0, minRTT := 999999, maxRTT := 0 }
  | n + 1 => iterate timeoutSeconds (wire.exchange n) (iterations wire timeoutSeconds n)

def finish (count : Int) (totals : Totals) : PingResult :=
  let result : PingResult :=
    { packetsSent := count
      packetsReceived := totals.packetsReceived
      minRTT := 0
      maxRTT := 0
      avgRTT := 0
      packetLoss := 0 }
  let result : PingResult :=
    if result.packetsReceived > 0 then
      { result with
        avgRTT := .fin totals.totalRTT / .ofInt result.packetsReceived
        minRTT := .fin totals.minRTT
        maxRTT := .fin totals.maxRTT }
    else
      result
  { result with
    packetLoss :=
      (.ofInt (result.packetsSent - result.packetsReceived) * 100) / .ofInt result.packetsSent }

/-- The parameter for the timeout is not used: the loop waits for `timeoutSeconds`. -/
def pingHostOver (wire : Wire) (timeoutSeconds : Int) (host : Bytes) (count _timeout : Int)
    : Except StdException PingResult :=
  if !wire.socketOpens then
    .error (.runtimeError (str "Failed to create ICMP socket (requires root privileges)"))
  else if !wire.resolves then
    .error (.runtimeError (str "Failed to resolve hostname: " ++ host))
  else
    .ok (finish count (iterations wire timeoutSeconds count.toNat))

theorem iterate_eq_add (timeoutSeconds : Int) (exchange : Exchange) (totals : Totals)
    : iterate timeoutSeconds exchange totals = totals.add (exchange.probe timeoutSeconds) := by
  unfold iterate Exchange.probe
  cases exchange.sent with
  | false => rfl
  | true =>
    cases exchange.select timeoutSeconds with
    | false => rfl
    | true => cases exchange.received <;> rfl

theorem iterations_eq_probeLoop (wire : Wire) (timeoutSeconds : Int) (n : Nat)
    : iterations wire timeoutSeconds n = probeLoop (wire.network timeoutSeconds).probe n := by
  induction n with
  | zero => rfl
  | succ n ih =>
    rw [iterations, iterate_eq_add, ih]
    rfl

theorem finish_eq_result (count : Int) (totals : Totals)
    : finish count totals = totals.result count := by
  unfold finish Totals.result
  by_cases h : totals.packetsReceived > 0
  . simp only [if_pos h]
  . simp only [if_neg h]

theorem pingHostOver_eq_pingHost (wire : Wire) (timeoutSeconds : Int) (host : Bytes)
    (count timeout : Int)
    : pingHostOver wire timeoutSeconds host count timeout
        =
      pingHost (wire.network timeoutSeconds) host count timeout := by
  unfold pingHostOver
  rw [iterations_eq_probeLoop, finish_eq_result]
  rfl

/-- Every run that starts ends with the statistics of the times it measured. -/
theorem pingHost_describes {network : Network} (hstarts : network.Starts) (host : Bytes)
    {count : Int} (hcount : 1 ≤ count) (timeout : Int)
    (hmeasured : ∀ t ∈ measured network.probe count.toNat, 0 ≤ t ∧ t ≤ 999999)
    : ∃ result,
        pingHost network host count timeout = .ok result
          ∧
        result.Describes count (measured network.probe count.toNat) := by
  refine ⟨_, pingHost_of_starts hstarts host count, ?_⟩
  have hlength := length_measured_le network.probe count.toNat
  exact (summarise_probeLoop network.probe count.toNat).describes hcount (by omega) hmeasured

def mixed : Network where
  socketOpens := true
  resolves := true
  probe
    | 0 => .reply ⟨10, 0⟩ ⟨10, 30000⟩
    | 1 => .noReply
    | 2 => .reply ⟨11, 999000⟩ ⟨12, 1000⟩
    | _ => .sendFailed

theorem pingHost_describes_mixed
    : ∃ result,
        pingHost mixed (str "router") 4 10 = .ok result
          ∧
        result.Describes 4 (measured mixed.probe 4) := by
  apply pingHost_describes
  . decide
  . decide
  . decide +kernel

end PingPlugin
end NetmonPlugins

import NetmonPlugins.Common.Icmp.Lemmas
import NetmonPlugins.Plugins.Fping.Impl

/-!
This module contains the probe loop of `check_fping` over the system calls it makes.
-/

namespace NetmonPlugins
namespace FpingPlugin

open Icmp

structure Loop where
  totals : Totals := { packetsReceived := 0, totalRTT := 0, minRTT := 999999, maxRTT := 0 }
  -- The arguments of `usleep`, oldest first.
  pauses : List Int := []
  deriving DecidableEq

def iterate (packetCount interval : Int) (i : Nat) (exchange : Exchange) (loop : Loop) : Loop :=
  let totals :=
    if exchange.sent then
      if exchange.select 1 then
        if exchange.received then
          let rtt := rtt exchange.startTime exchange.endTime
          { packetsReceived := loop.totals.packetsReceived + 1
            totalRTT := loop.totals.totalRTT + rtt
            minRTT := if rtt < loop.totals.minRTT then rtt else loop.totals.minRTT
            maxRTT := if rtt > loop.totals.maxRTT then rtt else loop.totals.maxRTT }
        else
          loop.totals
      else
        loop.totals
    else
      loop.totals
  if i < packetCount - 1 then
    { totals := totals, pauses := loop.pauses ++ [interval * 1000] }
  else
    { totals := totals, pauses := loop.pauses }

def iterations (wire : Wire) (packetCount interval : Int) : Nat → Loop
  | 0 => {}
  | n + 1 =>
    iterate packetCount interval n (wire.exchange n) (iterations wire packetCount interval n)

def finish (packetCount : Int) (totals : Totals) : PingResult :=
  let result : PingResult :=
    { packetsSent := packetCount
      packetsReceived := totals.packetsReceived
      minRTT := 0
      maxRTT := 0
      avgRTT := 0
      packetLoss := 0 }
  let result : PingResult :=
    if result.packetsReceived > 0 then
      { result with
        avgRTT := .fin totals.totalRTT / .ofInt result.packetsReceived
        minRTT := .fin totals.minRTT
        maxRTT := .fin totals.maxRTT }
    else
      result
  { result with
    packetLoss :=
      (.ofInt (result.packetsSent - result.packetsReceived) * 100) / .ofInt result.packetsSent }

def pingHostOver (wire : Wire) (interval : Int) (host : Bytes) (packetCount _timeout : Int)
    : Except StdException PingResult :=
  if !wire.socketOpens then
    .error (.runtimeError (str "Failed to create ICMP socket (requires root privileges)"))
  else if !wire.resolves then
    .error (.runtimeError (str "Failed to resolve hostname: " ++ host))
  else
    .ok (finish packetCount (iterations wire packetCount interval packetCount.toNat).totals)

theorem totals_iterate (packetCount interval : Int) (i : Nat) (exchange : Exchange) (loop : Loop)
    : (iterate packetCount interval i exchange loop).totals
        =
      loop.totals.add (exchange.probe 1) := by
  unfold iterate Exchange.probe
  -- The pause leaves the totals alone.
  rw [apply_ite Loop.totals, ite_self]
  cases exchange.sent with
  | false => rfl
  | true =>
    cases exchange.select 1 with
    | false => rfl
    | true => cases exchange.received <;> rfl

theorem totals_iterations (wire : Wire) (packetCount interval : Int) (n : Nat)
    : (iterations wire packetCount interval n).totals = probeLoop (wire.network 1).probe n := by
  induction n with
  | zero => rfl
  | succ n ih =>
    rw [iterations, totals_iterate, ih]
    rfl

theorem finish_eq_result (packetCount : Int) (totals : Totals)
    : finish packetCount totals = totals.result packetCount := by
  unfold finish Totals.result
  by_cases h : totals.packetsReceived > 0
  . simp only [if_pos h]
  . simp only [if_neg h]

theorem pingHostOver_eq_pingHost (wire : Wire) (interval : Int) (host : Bytes)
    (packetCount timeout : Int)
    : pingHostOver wire interval host packetCount timeout
        =
      pingHost (wire.network 1) host packetCount timeout := by
  unfold pingHostOver
  rw [totals_iterations, finish_eq_result]
  rfl

end FpingPlugin
end NetmonPlugins

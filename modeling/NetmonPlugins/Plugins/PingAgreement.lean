import NetmonPlugins.Plugins.Fping.Exchange
import NetmonPlugins.Plugins.Ping.Exchange
import NetmonPlugins.Plugins.SeverityLadders

/-!
This module contains the agreement of `check_fping` with `check_ping`, whose loops and ladders are
written separately, on a wire whose replies arrive within one second or not at all.
-/

namespace NetmonPlugins

open Icmp

/-- The loop of `check_ping` waits `timeoutSeconds` for each reply. -/
def PingPlugin.checkOver (wire : Wire) (config : PingPlugin.Config) : PluginResult :=
  PingPlugin.check (wire.network config.timeoutSeconds) config

/-- The loop of `check_fping` waits one second for each reply. -/
def FpingPlugin.checkOver (wire : Wire) (config : FpingPlugin.Config) : PluginResult :=
  FpingPlugin.check (wire.network 1) config

theorem pingHost_agree {wire : Wire} {count : Int}
    (hprompt : ∀ i < count.toNat, (wire.exchange i).Prompt) {timeoutSeconds : Int}
    (htimeout : 1 ≤ timeoutSeconds) (hostname : Bytes) (timeout timeout' : Int)
    : PingPlugin.pingHost (wire.network timeoutSeconds) hostname count timeout
        =
      FpingPlugin.pingHost (wire.network 1) hostname count timeout' := by
  unfold PingPlugin.pingHost FpingPlugin.pingHost
  apply pingHost_congr
  . rfl
  . rfl
  . intro i hi
    exact (hprompt i hi).probe_eq htimeout

theorem code_agree {network network' : Network} {ping : PingPlugin.Config}
    {fping : FpingPlugin.Config} (hhostname : ping.hostname = fping.hostname)
    (hresult : PingPlugin.pingHost network ping.hostname ping.packetCount ping.timeoutSeconds
        = FpingPlugin.pingHost network' fping.hostname fping.count 10)
    (hcriticalPL : ping.criticalPL = fping.criticalPL)
    (hcriticalRTA : ping.criticalRTA = fping.criticalRTA)
    (hwarningPL : ping.warningPL = fping.warningPL)
    (hwarningRTA : ping.warningRTA = fping.warningRTA)
    : (PingPlugin.check network ping).code = (FpingPlugin.check network' fping).code := by
  by_cases hempty : fping.hostname = []
  . unfold PingPlugin.check FpingPlugin.check
    rw [if_pos (hhostname ▸ hempty), if_pos hempty]
  . have hempty' : ping.hostname ≠ [] := hhostname ▸ hempty
    cases hping : PingPlugin.pingHost network ping.hostname ping.packetCount
        ping.timeoutSeconds with
    | error e =>
      unfold PingPlugin.check FpingPlugin.check
      rw [if_neg hempty', if_neg hempty, ← hresult, hping]
    | ok result =>
      rw [PingPlugin.code_check hempty' hping]
      rw [FpingPlugin.code_check hempty (hresult ▸ hping), FpingPlugin.checkThresholds_eq_ladder]
      simp only [hcriticalPL, hcriticalRTA, hwarningPL, hwarningRTA]

/--
Over one wire and with the same thresholds, the two checks come to the same statistics and the same
code.
-/
theorem checks_agree (wire : Wire) (hostname : Bytes) (count : Int)
    (hprompt : ∀ i < count.toNat, (wire.exchange i).Prompt) (timeoutSeconds : Int)
    (htimeout : 1 ≤ timeoutSeconds) (interval : Int)
    (warningRTA criticalRTA warningPL criticalPL : Double)
    : PingPlugin.pingHostOver wire timeoutSeconds hostname count timeoutSeconds
        =
      FpingPlugin.pingHostOver wire interval hostname count 10
        ∧
      (PingPlugin.checkOver wire
          { hostname := hostname
            packetCount := count
            timeoutSeconds := timeoutSeconds
            warningRTA := warningRTA
            criticalRTA := criticalRTA
            warningPL := warningPL
            criticalPL := criticalPL }).code
        =
      (FpingPlugin.checkOver wire
          { hostname := hostname
            count := count
            interval := interval
            warningRTA := warningRTA
            criticalRTA := criticalRTA
            warningPL := warningPL
            criticalPL := criticalPL }).code := by
  constructor
  . rw [PingPlugin.pingHostOver_eq_pingHost, FpingPlugin.pingHostOver_eq_pingHost]
    exact pingHost_agree hprompt htimeout hostname timeoutSeconds 10
  . unfold PingPlugin.checkOver FpingPlugin.checkOver
    apply code_agree
    . rfl
    . exact pingHost_agree hprompt htimeout hostname timeoutSeconds 10
    . rfl
    . rfl
    . rfl
    . rfl

/-- The second reply is lost, and the last probe is not sent. -/
def lossy : Wire where
  socketOpens := true
  resolves := true
  exchange i :=
    { sent := i != 3
      arrival := if i = 1 then none else some 400000
      received := true
      startTime := ⟨i, 700000⟩
      endTime := ⟨i + 1, 100000⟩ }

theorem checks_agree_lossy
    : PingPlugin.pingHostOver lossy 10 (str "router") 4 10
        =
      FpingPlugin.pingHostOver lossy 100 (str "router") 4 10
        ∧
      (PingPlugin.checkOver lossy
          { hostname := str "router", packetCount := 4, criticalPL := 50 }).code
        =
      (FpingPlugin.checkOver lossy
          { hostname := str "router", count := 4, criticalPL := 50 }).code := by
  apply checks_agree
  . intro i _ arrival h
    simp only [lossy] at h
    split at h
    . contradiction
    . simp only [Option.some.injEq] at h
      omega
  . decide

end NetmonPlugins

import NetmonPlugins.Common.Icmp.Lemmas
import NetmonPlugins.Plugins.Dhcp.Impl
import NetmonPlugins.Plugins.SeverityLadders

/-!
This module determines what `check_ping`, `check_fping` and `check_dhcp` report when nothing
answers.
-/

namespace NetmonPlugins

open Icmp

namespace PingPlugin

theorem check_of_silent {network : Network} (hsilent : network.Silent) (config : Config)
    (hcount : config.packetCount ≠ 0)
    : (check network config).code
        =
      if config.hostname = [] ∨ ¬ network.Starts then
        .unknown
      else if LossLimit config.criticalPL then
        .critical
      else if LossLimit config.warningPL then
        .warning
      else
        .ok := by
  by_cases hhost : config.hostname = []
  . simp [check, hhost]
  . by_cases hstarts : network.Starts
    . rw [if_neg (by simp [hhost, hstarts])]
      have hping := pingHost_of_silent hsilent hstarts config.hostname config.packetCount
      rw [code_check hhost hping, packetLoss_of_silent _ hcount, avgRTT_of_silent]
      exact ladder_congr (or_iff_left (not_reached_by_zero _)) (or_iff_left (not_reached_by_zero _))
    . obtain ⟨e, he⟩ := pingHost_of_not_starts hstarts config.hostname config.packetCount
      unfold check pingHost
      rw [he]
      simp [hhost, hstarts]

end PingPlugin

namespace FpingPlugin

theorem check_of_silent {network : Network} (hsilent : network.Silent) (config : Config)
    (hcount : config.count ≠ 0)
    : (check network config).code
        =
      if config.hostname = [] ∨ ¬ network.Starts then
        .unknown
      else if LossLimit config.criticalPL then
        .critical
      else if LossLimit config.warningPL then
        .warning
      else
        .ok := by
  by_cases hhost : config.hostname = []
  . simp [check, hhost]
  . by_cases hstarts : network.Starts
    . rw [if_neg (by simp [hhost, hstarts])]
      have hping := pingHost_of_silent hsilent hstarts config.hostname config.count
      rw [code_check hhost hping, checkThresholds_eq_ladder, packetLoss_of_silent _ hcount,
        avgRTT_of_silent]
      exact ladder_congr (or_iff_left (not_reached_by_zero _)) (or_iff_left (not_reached_by_zero _))
    . obtain ⟨e, he⟩ := pingHost_of_not_starts hstarts config.hostname config.count
      unfold check pingHost
      rw [he]
      simp [hhost, hstarts]

end FpingPlugin

namespace DhcpPlugin

theorem check_of_not_sent (network : Network) (config : Config)
    (h : network.sendto discoverPacket ≤ 0)
    : (check network config).code = .critical := by
  have hcheck : ∀ host, checkDhcp network host config.timeoutSeconds = false := by
    intro host
    unfold checkDhcp
    split
    . rfl
    . split
      . rfl
      . simpa using h
  unfold check
  simp [hcheck]

end DhcpPlugin

theorem codes_of_silent (network : Network) (hsilent : network.Silent)
    (ping : PingPlugin.Config) (hping : ping.packetCount ≠ 0)
    (fping : FpingPlugin.Config) (hfping : fping.count ≠ 0)
    (dhcpNetwork : DhcpPlugin.Network) (dhcp : DhcpPlugin.Config)
    : (PingPlugin.check network ping).code
        =
      (if ping.hostname = [] ∨ ¬ network.Starts then .unknown
        else if LossLimit ping.criticalPL then .critical
        else if LossLimit ping.warningPL then .warning
        else .ok)
        ∧
      (FpingPlugin.check network fping).code
        =
      (if fping.hostname = [] ∨ ¬ network.Starts then .unknown
        else if LossLimit fping.criticalPL then .critical
        else if LossLimit fping.warningPL then .warning
        else .ok)
        ∧
      (dhcpNetwork.sendto DhcpPlugin.discoverPacket ≤ 0
        → (DhcpPlugin.check dhcpNetwork dhcp).code = .critical) := by
  refine ⟨?_, ?_, ?_⟩
  . apply PingPlugin.check_of_silent hsilent ping hping
  . apply FpingPlugin.check_of_silent hsilent fping hfping
  . apply DhcpPlugin.check_of_not_sent

def silentNetwork : Network where
  socketOpens := true
  resolves := true
  probe _ := .noReply

theorem silentNetwork_silent : silentNetwork.Silent := by
  intro i
  rfl

theorem ok_of_silentNetwork
    : silentNetwork.Silent
        ∧
      (PingPlugin.check silentNetwork { hostname := str "gateway" }).code = .ok
        ∧
      (FpingPlugin.check silentNetwork { hostname := str "gateway" }).code = .ok := by
  refine ⟨silentNetwork_silent, ?_, ?_⟩
  . rw [PingPlugin.check_of_silent silentNetwork_silent _ (by decide)]
    decide +kernel
  . rw [FpingPlugin.check_of_silent silentNetwork_silent _ (by decide)]
    decide +kernel

theorem codes_of_silentNetwork
    : (PingPlugin.check silentNetwork { hostname := str "gateway", criticalPL := 50 }).code
        = .critical
        ∧
      (FpingPlugin.check silentNetwork { hostname := str "gateway", warningPL := 20 }).code
        = .warning := by
  have h := codes_of_silent silentNetwork silentNetwork_silent
    { hostname := str "gateway", criticalPL := 50 } (by decide)
    { hostname := str "gateway", warningPL := 20 } (by decide)
    { socketOpens := true, resolves := fun _ => true, sendto := fun _ => -1, received := none } {}
  rw [h.1, h.2.1]
  decide +kernel

end NetmonPlugins

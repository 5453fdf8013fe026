import NetmonPlugins.Common.Icmp.Impl
import NetmonPlugins.Common.Plugin
import NetmonPlugins.Common.Settings

/-!
This module contains `check_fping`. A threshold of zero or less is not set.
-/

namespace NetmonPlugins
namespace FpingPlugin

open Icmp

structure Config where
  hostname : Bytes := []
  count : Int := 5
  -- The pause between two probes, in milliseconds.
  interval : Int := 100
  warningRTA : Double := .fin (-1)
  criticalRTA : Double := .fin (-1)
  warningPL : Double := .fin (-1)
  criticalPL : Double := .fin (-1)

/-- The argument `timeout` is not used: each reply is waited for one second. -/
def pingHost (network : Network) (host : Bytes) (packetCount _timeout : Int)
    : Except StdException PingResult :=
  Icmp.pingHost network host packetCount

def checkThresholds (config : Config) (result : PingResult) : ExitCode :=
  if config.criticalPL > 0 ∧ result.packetLoss ≥ config.criticalPL then
    .critical
  else if config.criticalRTA > 0 ∧ result.avgRTT ≥ config.criticalRTA then
    .critical
  else if config.warningPL > 0 ∧ result.packetLoss ≥ config.warningPL then
    .warning
  else if config.warningRTA > 0 ∧ result.avgRTT ≥ config.warningRTA then
    .warning
  else
    .ok

def message (config : Config) (code : ExitCode) (result : PingResult) : Bytes :=
  if code ≠ .ok then
    let statusStr := if code = .critical then str "CRITICAL" else str "WARNING"
    -- The precision set for the loss of the OK message is still in force.
    str "FPING " ++ statusStr ++ str " - " ++ config.hostname ++ str " RTA = "
      ++ fixed 1 result.avgRTT ++ str " ms, " ++ fixed 1 result.packetLoss ++ str "% loss"
  else
    str "FPING OK - " ++ config.hostname ++ str " responded, RTA = " ++ fixed 2 result.avgRTT
      ++ str " ms, " ++ fixed 1 result.packetLoss ++ str "% loss"

def perfdata (config : Config) (result : PingResult) : Bytes :=
  str "rta=" ++ fixed 2 result.avgRTT ++ str "ms"
    ++ (if config.warningRTA > 0 then
          str ";" ++ fixed 2 config.warningRTA ++ str ";" ++ fixed 2 config.criticalRTA
        else
          [])
    ++ str " pl=" ++ fixed 1 result.packetLoss ++ str "%"
    ++ (if config.warningPL > 0 then
          str ";" ++ fixed 1 config.warningPL ++ str ";" ++ fixed 1 config.criticalPL
        else
          [])

def check (network : Network) (config : Config) : PluginResult :=
  if config.hostname = [] then
    { code := .unknown, message := str "Hostname must be specified" }
  else
    match pingHost network config.hostname config.count 10 with
    | .error e => { code := .unknown, message := str "FPING check failed: " ++ e.what }
    | .ok result =>
      let code := checkThresholds config result
      { code := code
        message := message config code result
        perfdata := perfdata config result }

open CommandLine

def setThresholds (threshold : Bytes)
    : Except Fault (Double × Double → Double × Double) :=
  match find threshold (str ",") 0 with
  | some comma => do
    let storeRTA ← converted (stod (substr threshold 0 comma)) fun rta bounds => (rta, bounds.2)
    let storePL ← converted (stod (threshold.drop (comma + 1))) fun pl bounds => (bounds.1, pl)
    return storePL ∘ storeRTA
  | none => converted (stod threshold) fun rta bounds => (rta, bounds.2)

def warning : Setting Config where
  Part := Double × Double
  get config := (config.warningRTA, config.warningPL)
  put bounds config := { config with warningRTA := bounds.1, warningPL := bounds.2 }
  get_put _ _ := rfl
  put_get _ := rfl
  members := [⟨_, Prod.fst⟩, ⟨_, Prod.snd⟩]
  members_ext _ _ h := by
    simp only [List.forall_mem_cons] at h
    exact Prod.ext h.1 h.2.1
  options := [([str "-w", str "--warning"], .value setThresholds)]

def critical : Setting Config where
  Part := Double × Double
  get config := (config.criticalRTA, config.criticalPL)
  put bounds config := { config with criticalRTA := bounds.1, criticalPL := bounds.2 }
  get_put _ _ := rfl
  put_get _ := rfl
  members := [⟨_, Prod.fst⟩, ⟨_, Prod.snd⟩]
  members_ext _ _ h := by
    simp only [List.forall_mem_cons] at h
    exact Prod.ext h.1 h.2.1
  options := [([str "--critical"], .value setThresholds)]

def settings : List (Setting Config) :=
  [.text ["-H", "--hostname"] (·.hostname) fun text config => { config with hostname := text },
    .int ["-c", "--count"] (·.count) fun number config => { config with count := number },
    .int ["-i", "--interval"] (·.interval)
      fun number config => { config with interval := number },
    warning,
    critical]

def parseArguments (args : List Bytes) : Except Stop Config := scan (branchOf settings) {} args

end FpingPlugin
end NetmonPlugins

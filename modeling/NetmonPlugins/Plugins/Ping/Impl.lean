import NetmonPlugins.Common.Icmp.Impl
import NetmonPlugins.Common.Plugin

/-!
This module contains `check_ping`. A threshold of zero or less is not set.
-/

namespace NetmonPlugins
namespace PingPlugin

open Icmp

structure Config where
  hostname : Bytes := []
  packetCount : Int := 5
  timeoutSeconds : Int := 10
  warningRTA : Double := .fin (-1)
  criticalRTA : Double := .fin (-1)
  warningPL : Double := .fin (-1)
  criticalPL : Double := .fin (-1)

/-- The timeout bounds the wait for each reply and is part of what `network` does. -/
def pingHost (network : Network) (host : Bytes) (count _timeout : Int)
    : Except StdException PingResult :=
  Icmp.pingHost network host count

def checkThresholds (config : Config) (result : PingResult) : Bool × Bool :=
  if config.criticalPL > 0 ∧ result.packetLoss ≥ config.criticalPL then
    (true, false)
  else if config.criticalRTA > 0 ∧ result.avgRTT ≥ config.criticalRTA then
    (true, false)
  else if config.warningPL > 0 ∧ result.packetLoss ≥ config.warningPL then
    (false, true)
  else if config.warningRTA > 0 ∧ result.avgRTT ≥ config.warningRTA then
    (false, true)
  else
    (false, false)

def received (result : PingResult) : Bytes :=
  intDec result.packetsReceived ++ str "/" ++ intDec result.packetsSent ++ str " packets received"

def lossMessage (status : Bytes) (result : PingResult) : Bytes :=
  str "PING " ++ status ++ str " - " ++ received result ++ str " (" ++ fixed 1 result.packetLoss
    ++ str "% loss), RTA = " ++ fixed 1 result.avgRTT ++ str " ms"

def perfdata (config : Config) (result : PingResult) : Bytes :=
  str "rta=" ++ fixed 2 result.avgRTT ++ str "ms"
    ++ (if config.warningRTA > 0 then
          str ";" ++ fixed 2 config.warningRTA ++ str ";" ++ fixed 2 config.criticalRTA
        else
          [])
    ++ str " pl=" ++ fixed 1 result.packetLoss ++ str "%"
    ++ (if config.warningPL > 0 then
          str ";" ++ fixed 1 config.warningPL ++ str ";" ++ fixed 1 config.criticalPL
        else
          [])

def check (network : Network) (config : Config) : PluginResult :=
  if config.hostname = [] then
    { code := .unknown, message := str "Hostname not specified" }
  else
    match pingHost network config.hostname config.packetCount config.timeoutSeconds with
    | .error e => { code := .unknown, message := str "Ping failed: " ++ e.what }
    | .ok result =>
      let (isCritical, isWarning) := checkThresholds config result
      if isCritical then
        { code := .critical
          message := lossMessage (str "CRITICAL") result
          perfdata := perfdata config result }
      else if isWarning then
        { code := .warning
          message := lossMessage (str "WARNING") result
          perfdata := perfdata config result }
      else
        { code := .ok
          message := str "PING OK - " ++ received result ++ str ", RTA = " ++ fixed 2 result.avgRTT
            ++ str " ms"
          perfdata := perfdata config result }

end PingPlugin
end NetmonPlugins

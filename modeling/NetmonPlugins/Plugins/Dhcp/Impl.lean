import NetmonPlugins.Common.Plugin
import NetmonPlugins.Common.Settings

/-!
This module contains `check_dhcp`.
-/

namespace NetmonPlugins
namespace DhcpPlugin

structure Config where
  hostname : Bytes := []
  timeoutSeconds : Int := 10

def discoverPacket : Bytes :=
  [1, 1, 6, 0, 0x12, 0x34, 0x56, 0x78] ++ List.replicate 228 0
    ++ [99, 130, 83, 99, 53, 1, 1, 255] ++ List.replicate 304 0

structure Network where
  socketOpens : Bool
  resolves : Bytes → Bool
  -- The return value of `sendto`.
  sendto : Bytes → Int
  -- The return value of `recvfrom` when `select` reports a datagram within the timeout.
  received : Option Int

/-- The response is looked for and does not influence the result. -/
def checkDhcp (network : Network) (host : Bytes) (_timeout : Int) : Bool :=
  if !network.socketOpens then
    false
  else if host ≠ [] && host ≠ str "255.255.255.255" && !network.resolves host then
    false
  else
    let sent := network.sendto discoverPacket
    let _hasResponse := match network.received with
      | some received => decide (received > 0)
      | none => false
    decide (sent > 0)

def check (network : Network) (config : Config) : PluginResult :=
  let targetHost := if config.hostname = [] then str "255.255.255.255" else config.hostname
  if checkDhcp network targetHost config.timeoutSeconds then
    { code := .ok
      message := str "DHCP OK - " ++ targetHost ++ str " is responding to DHCP requests" }
  else
    { code := .critical
      message := str "DHCP CRITICAL - " ++ targetHost
        ++ str " is not responding to DHCP requests" }

open CommandLine

def settings : List (Setting Config) :=
  [.text ["-H", "--hostname"] (·.hostname) fun text config => { config with hostname := text },
    .int ["-t", "--timeout"] (·.timeoutSeconds)
      fun number config => { config with timeoutSeconds := number },
    .unreadText ["-i", "--interface"]]

def parseArguments (args : List Bytes) : Except Stop Config := scan (branchOf settings) {} args

end DhcpPlugin
end NetmonPlugins

import NetmonPlugins.Common.Settings
import NetmonPlugins.Plugins.Consul.Impl

/-!
This module contains the check of `check_nomad`. The token is stored by the argument parser and
never sent.
-/

namespace NetmonPlugins
namespace NomadPlugin

structure Config where
  hostname : Bytes := []
  port : Int := 4646
  timeoutSeconds : Int := 10
  checkType : Bytes := str "health"

def apiPath (checkType : Bytes) : Bytes :=
  if checkType = str "health" then str "/v1/status/leader"
  else if checkType = str "jobs" then str "/v1/jobs"
  else if checkType = str "nodes" then str "/v1/nodes"
  else if checkType = str "leader" then str "/v1/status/leader"
  else str "/v1/status/leader"

-- The lines of `check_consul` that find the leader are here once more.
def checkLeader (response : Bytes) : PluginResult :=
  let leader := ConsulPlugin.leaderOf response
  if leader ≠ [] then
    { code := .ok, message := str "Nomad OK - Leader: " ++ leader }
  else
    { code := .critical, message := str "Nomad CRITICAL - No leader elected" }

theorem id_ne_nil : str "\"ID\"" ≠ [] := by decide

def checkJobs (response : Bytes) : PluginResult :=
  let jobCount := countOccurrences response (str "\"ID\"") id_ne_nil 0
  { code := .ok
    message := str "Nomad OK - " ++ natDec jobCount ++ str " jobs"
    perfdata := str "jobs=" ++ natDec jobCount }

def checkNodes (response : Bytes) : PluginResult :=
  let nodeCount := countOccurrences response (str "\"ID\"") id_ne_nil 0
  { code := .ok
    message := str "Nomad OK - " ++ natDec nodeCount ++ str " nodes"
    perfdata := str "nodes=" ++ natDec nodeCount }

def check (sslEnabled : Bool) (server : Server) (config : Config) : PluginResult :=
  if config.hostname = [] then
    { code := .unknown, message := str "Hostname must be specified" }
  else
    match httpGet sslEnabled server config.hostname config.port (apiPath config.checkType) false
      config.timeoutSeconds with
    | .error e => { code := .unknown, message := str "Nomad check failed: " ++ e.what }
    | .ok (statusCode, response) =>
      if statusCode ≠ 200 ∨ response = [] then
        { code := .critical
          message := str "Nomad CRITICAL - Cannot connect to API or invalid response (status: "
            ++ intDec statusCode ++ str ")" }
      else if config.checkType = str "health" ∨ config.checkType = str "leader" then
        checkLeader response
      else if config.checkType = str "jobs" then
        checkJobs response
      else if config.checkType = str "nodes" then
        checkNodes response
      else
        { code := .ok, message := str "Nomad OK - API responding" }

open CommandLine

def settings : List (Setting Config) :=
  [.text ["-H", "--hostname"] (·.hostname) fun text config => { config with hostname := text },
    .int ["-p", "--port"] (·.port) fun number config => { config with port := number },
    .unreadText ["-t", "--token"],
    .text ["-c", "--check"] (·.checkType) fun text config => { config with checkType := text },
    .int ["-T", "--timeout"] (·.timeoutSeconds)
      fun number config => { config with timeoutSeconds := number }]

def parseArguments (args : List Bytes) : Except Stop Config := scan (branchOf settings) {} args

end NomadPlugin
end NetmonPlugins

import NetmonPlugins.Common.HttpApi.Impl
import NetmonPlugins.Common.JsonUtils.Impl
import NetmonPlugins.Common.Occurrences
import NetmonPlugins.Common.Plugin
import NetmonPlugins.Common.Settings

/-!
This module contains `check_consul`. The token is stored by the argument parser and never sent.
-/

namespace NetmonPlugins
namespace ConsulPlugin

structure Config where
  hostname : Bytes := []
  port : Int := 8500
  timeoutSeconds : Int := 10
  checkType : Bytes := str "health"

def apiPath (checkType : Bytes) : Bytes :=
  if checkType = str "health" then str "/v1/health/state/any"
  else if checkType = str "leader" then str "/v1/status/leader"
  else if checkType = str "members" then str "/v1/agent/members"
  else if checkType = str "services" then str "/v1/agent/services"
  else str "/v1/health/state/any"

def checkHealth (response : Bytes) : PluginResult :=
  let passing : PluginResult :=
    { code := .ok, message := str "Consul OK - All health checks passing" }
  if contains response (str "Status") then
    if contains response (str "\"Status\":\"critical\"") then
      { code := .critical, message := str "Consul CRITICAL - Health checks in critical state" }
    else if contains response (str "\"Status\":\"warning\"") then
      { code := .warning, message := str "Consul WARNING - Health checks in warning state" }
    else
      passing
  else
    passing

def leaderOf (response : Bytes) : Bytes :=
  let leader := extractJsonValue response (str "leader")
  if leader = [] then
    -- Both ends of a JSON string are cut off by position.
    if response.length > 0 ∧ response.head? = some 34 then
      substr response 1 (response.length - 2)
    else
      response
  else
    leader

def checkLeader (response : Bytes) : PluginResult :=
  let leader := leaderOf response
  if leader ≠ [] then
    { code := .ok, message := str "Consul OK - Leader: " ++ leader }
  else
    { code := .critical, message := str "Consul CRITICAL - No leader elected" }

def checkMembers (response : Bytes) : PluginResult :=
  let memberCount := countOccurrences response (str "\"Name\"") (by decide) 0
  { code := .ok
    message := str "Consul OK - " ++ natDec memberCount ++ str " cluster members"
    perfdata := str "members=" ++ natDec memberCount }

def checkServices (response : Bytes) : PluginResult :=
  let serviceCount := countOccurrences response (str "\"ID\"") (by decide) 0
  { code := .ok
    message := str "Consul OK - " ++ natDec serviceCount ++ str " services registered"
    perfdata := str "services=" ++ natDec serviceCount }

def check (sslEnabled : Bool) (server : Server) (config : Config) : PluginResult :=
  if config.hostname = [] then
    { code := .unknown, message := str "Hostname must be specified" }
  else
    match httpGet sslEnabled server config.hostname config.port (apiPath config.checkType) false
      config.timeoutSeconds with
    | .error e => { code := .unknown, message := str "Consul check failed: " ++ e.what }
    | .ok (statusCode, response) =>
      if statusCode ≠ 200 ∨ response = [] then
        { code := .critical
          message := str "Consul CRITICAL - Cannot connect to API or invalid response (status: "
            ++ intDec statusCode ++ str ")" }
      else if config.checkType = str "health" then
        checkHealth response
      else if config.checkType = str "leader" then
        checkLeader response
      else if config.checkType = str "members" then
        checkMembers response
      else if config.checkType = str "services" then
        checkServices response
      else
        { code := .ok, message := str "Consul OK - API responding" }

open CommandLine

def settings : List (Setting Config) :=
  [.text ["-H", "--hostname"] (·.hostname) fun text config => { config with hostname := text },
    .int ["-p", "--port"] (·.port) fun number config => { config with port := number },
    .unreadText ["-t", "--token"],
    .text ["-c", "--check"] (·.checkType) fun text config => { config with checkType := text },
    .int ["-T", "--timeout"] (·.timeoutSeconds)
      fun number config => { config with timeoutSeconds := number }]

def parseArguments (args : List Bytes) : Except Stop Config := scan (branchOf settings) {} args

end ConsulPlugin
end NetmonPlugins

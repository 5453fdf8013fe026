import NetmonPlugins.Common.HttpApi.Impl
import NetmonPlugins.Common.JsonUtils.Impl
import NetmonPlugins.Common.Plugin
import NetmonPlugins.Common.Settings

/-!
This module contains `check_activemq`, which asks the Jolokia bridge of the web console.
-/

namespace NetmonPlugins
namespace ActivemqPlugin

structure Config where
  hostname : Bytes := []
  port : Int := 8161
  timeoutSeconds : Int := 10
  username : Bytes := str "admin"
  password : Bytes := str "admin"
  checkType : Bytes := str "health"

def apiPath (checkType : Bytes) : Bytes :=
  let broker := str "/api/jolokia/read/org.apache.activemq:type=Broker,brokerName=localhost"
  if checkType = str "health" then str "/api/jolokia/read/java.lang:type=Runtime"
  else if checkType = str "queues" then broker
  else if checkType = str "topics" then broker
  else str "/api/jolokia/read/java.lang:type=Runtime"

def checkRuntime (response : Bytes) : PluginResult :=
  if extractJsonValue response (str "VmName") ≠ [] then
    { code := .ok, message := str "ActiveMQ OK - Broker is running" }
  else
    { code := .warning, message := str "ActiveMQ WARNING - Response format unexpected" }

def judge (checkType : Bytes) (statusCode : Int) (response : Bytes) : PluginResult :=
  if statusCode ≠ 200 ∨ response = [] then
    { code := .critical
      message := str "ActiveMQ CRITICAL - Cannot connect to Web Console or invalid response "
        ++ str "(status: " ++ intDec statusCode ++ str ")" }
  else
    let error := extractJsonValue response (str "error")
    if error ≠ [] ∧ error ≠ str "null" then
      { code := .critical, message := str "ActiveMQ CRITICAL - Jolokia API error: " ++ error }
    else if checkType = str "health" then
      checkRuntime response
    else
      { code := .ok, message := str "ActiveMQ OK - Web Console API responding" }

def check (sslEnabled : Bool) (server : Server) (config : Config) : PluginResult :=
  if config.hostname = [] then
    { code := .unknown, message := str "Hostname must be specified" }
  else
    match httpGetAuth sslEnabled server config.hostname config.port (apiPath config.checkType) false
      config.timeoutSeconds config.username config.password with
    | .error e => { code := .unknown, message := str "ActiveMQ check failed: " ++ e.what }
    | .ok (statusCode, response) => judge config.checkType statusCode response

open CommandLine

def settings : List (Setting Config) :=
  [.text ["-H", "--hostname"] (·.hostname) fun text config => { config with hostname := text },
    .int ["-p", "--port"] (·.port) fun number config => { config with port := number },
    .text ["-u", "--username"] (·.username) fun text config => { config with username := text },
    .text ["-P", "--password"] (·.password) fun text config => { config with password := text },
    .text ["-c", "--check"] (·.checkType) fun text config => { config with checkType := text },
    .int ["-t", "--timeout"] (·.timeoutSeconds)
      fun number config => { config with timeoutSeconds := number }]

def parseArguments (args : List Bytes) : Except Stop Config := scan (branchOf settings) {} args

end ActivemqPlugin
end NetmonPlugins

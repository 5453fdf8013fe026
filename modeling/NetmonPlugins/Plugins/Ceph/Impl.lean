import NetmonPlugins.Common.HttpApi.Impl
import NetmonPlugins.Common.JsonUtils.Impl
import NetmonPlugins.Common.Plugin
import NetmonPlugins.Common.Settings

/-!
This module contains `check_ceph`.
-/

namespace NetmonPlugins
namespace CephPlugin

structure Config where
  hostname : Bytes := []
  port : Int := 5000
  timeoutSeconds : Int := 10
  username : Bytes := []
  password : Bytes := []
  checkType : Bytes := str "health"

def apiPath (checkType : Bytes) : Bytes :=
  if checkType = str "health" then str "/api/auth"
  else if checkType = str "status" then str "/api/status"
  else if checkType = str "osd" then str "/api/osd"
  else str "/api/auth"

def checkHealth (config : Config) (statusCode : Int) : PluginResult :=
  if statusCode = 200 ∨ statusCode = 401 then
    { code := .ok
      message := str "Ceph OK - REST API is responding on " ++ config.hostname ++ str ":"
        ++ intDec config.port }
  else
    { code := .critical
      message := str "Ceph CRITICAL - REST API returned status " ++ intDec statusCode }

def checkStatus (statusCode : Int) (response : Bytes) : PluginResult :=
  if statusCode = 200 then
    let health := extractJsonValue response (str "health")
    if health ≠ [] then
      if health = str "HEALTH_OK" ∨ health = str "ok" then
        { code := .ok, message := str "Ceph OK - Cluster health: " ++ health }
      else if health = str "HEALTH_WARN" ∨ health = str "warning" then
        { code := .warning, message := str "Ceph WARNING - Cluster health: " ++ health }
      else
        { code := .critical, message := str "Ceph CRITICAL - Cluster health: " ++ health }
    else
      { code := .ok
        message := str "Ceph OK - API responding (status: " ++ intDec statusCode ++ str ")" }
  else if statusCode = 401 ∨ statusCode = 403 then
    { code := .critical
      message := str "Ceph CRITICAL - Authentication failed (status " ++ intDec statusCode
        ++ str ")" }
  else
    { code := .critical
      message := str "Ceph CRITICAL - API returned status " ++ intDec statusCode }

def check (sslEnabled : Bool) (server : Server) (config : Config) : PluginResult :=
  if config.hostname = [] then
    { code := .unknown, message := str "Hostname must be specified" }
  else
    match httpGetAuth sslEnabled server config.hostname config.port (apiPath config.checkType) false
      config.timeoutSeconds config.username config.password with
    | .error e => { code := .unknown, message := str "Ceph check failed: " ++ e.what }
    | .ok (statusCode, response) =>
      if statusCode = 0 ∨ response = [] then
        { code := .critical
          message := str "Ceph CRITICAL - Cannot connect to REST API on " ++ config.hostname
            ++ str ":" ++ intDec config.port ++ str " (REST API may not be enabled)" }
      else if config.checkType = str "health" then
        checkHealth config statusCode
      else if config.checkType = str "status" ∨ config.checkType = str "osd" then
        checkStatus statusCode response
      else
        { code := .ok, message := str "Ceph OK - API server is responding" }

open CommandLine

def settings : List (Setting Config) :=
  [.text ["-H", "--hostname"] (·.hostname) fun text config => { config with hostname := text },
    .int ["-p", "--port"] (·.port) fun number config => { config with port := number },
    .text ["-u", "--username"] (·.username) fun text config => { config with username := text },
    .text ["-P", "--password"] (·.password) fun text config => { config with password := text },
    .text ["-c", "--check"] (·.checkType) fun text config => { config with checkType := text },
    .int ["-t", "--timeout"] (·.timeoutSeconds)
      fun number config => { config with timeoutSeconds := number }]

def parseArguments (args : List Bytes) : Except Stop Config := scan (branchOf settings) {} args

end CephPlugin
end NetmonPlugins

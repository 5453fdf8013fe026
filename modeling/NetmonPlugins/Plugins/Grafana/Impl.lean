import NetmonPlugins.Common.HttpApi.Impl
import NetmonPlugins.Common.JsonUtils.Impl
import NetmonPlugins.Common.Plugin
import NetmonPlugins.Common.Settings

/-!
This module contains `check_grafana`.
-/

namespace NetmonPlugins
namespace GrafanaPlugin

structure Config where
  hostname : Bytes := []
  port : Int := 3000
  timeoutSeconds : Int := 10
  username : Bytes := []
  password : Bytes := []
  useSSL : Bool := false
  checkType : Bytes := str "health"

/-- A build without OpenSSL falls back to HTTP, at the same port. -/
def Config.withAvailableSsl (sslEnabled : Bool) (config : Config) : Config :=
  if config.useSSL && !sslEnabled then { config with useSSL := false } else config

-- All branches over `checkType` choose this path.
def path : Bytes := str "/api/health"

def fetch (sslEnabled : Bool) (server : Server) (config : Config)
    : Except StdException (Int × Bytes) :=
  if config.username ≠ [] then
    httpGetAuth sslEnabled server config.hostname config.port path config.useSSL
      config.timeoutSeconds config.username config.password
  else
    httpGet sslEnabled server config.hostname config.port path config.useSSL config.timeoutSeconds

def checkHealth (response : Bytes) : PluginResult :=
  let database := extractJsonValue response (str "database")
  let version := extractJsonValue response (str "version")
  if database = str "ok" ∨ database = str "up" then
    { code := .ok
      message := str "Grafana OK - Database: " ++ database
        ++ (if version ≠ [] then str ", Version: " ++ version else []) }
  else
    { code := .critical, message := str "Grafana CRITICAL - Database status: " ++ database }

def checkVersion (response : Bytes) : PluginResult :=
  let version := extractJsonValue response (str "version")
  if version ≠ [] then
    { code := .ok, message := str "Grafana OK - Version: " ++ version }
  else
    { code := .ok, message := str "Grafana OK - API responding" }

def judge (checkType : Bytes) (statusCode : Int) (response : Bytes) : PluginResult :=
  if statusCode ≠ 200 ∨ response = [] then
    { code := .critical
      message := str "Grafana CRITICAL - Cannot connect to API or invalid response (status: "
        ++ intDec statusCode ++ str ")" }
  else if checkType = str "health" ∨ checkType = str "api" then
    checkHealth response
  else if checkType = str "version" then
    checkVersion response
  else
    { code := .ok, message := str "Grafana OK - API responding" }

def check (sslEnabled : Bool) (server : Server) (config : Config) : PluginResult :=
  if config.hostname = [] then
    { code := .unknown, message := str "Hostname must be specified" }
  else
    match fetch sslEnabled server (config.withAvailableSsl sslEnabled) with
    | .error e => { code := .unknown, message := str "Grafana check failed: " ++ e.what }
    | .ok (statusCode, response) => judge config.checkType statusCode response

open CommandLine

def settings : List (Setting Config) :=
  [.text ["-H", "--hostname"] (·.hostname) fun text config => { config with hostname := text },
    .int ["-p", "--port"] (·.port) fun number config => { config with port := number },
    .text ["-u", "--username"] (·.username) fun text config => { config with username := text },
    .text ["-P", "--password"] (·.password) fun text config => { config with password := text },
    .text ["-c", "--check"] (·.checkType) fun text config => { config with checkType := text },
    .flag ["-S", "--ssl"] (·.useSSL) (fun flag config => { config with useSSL := flag }) true,
    .int ["-T", "--timeout"] (·.timeoutSeconds)
      fun number config => { config with timeoutSeconds := number }]

def parseArguments (args : List Bytes) : Except Stop Config := scan (branchOf settings) {} args

end GrafanaPlugin
end NetmonPlugins

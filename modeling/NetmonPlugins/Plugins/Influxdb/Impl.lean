import NetmonPlugins.Common.HttpApi.Impl
import NetmonPlugins.Common.JsonUtils.Impl
import NetmonPlugins.Common.Occurrences
import NetmonPlugins.Common.Plugin
import NetmonPlugins.Common.Settings

/-!
This module contains the check of `check_influxdb`.
-/

namespace NetmonPlugins
namespace InfluxdbPlugin

structure Config where
  hostname : Bytes := []
  port : Int := 8086
  timeoutSeconds : Int := 10
  username : Bytes := []
  password : Bytes := []
  checkType : Bytes := str "ping"

def apiPath (checkType : Bytes) : Bytes :=
  if checkType = str "ping" then str "/ping"
  else if checkType = str "databases" then str "/query?q=SHOW+DATABASES"
  else if checkType = str "health" then str "/health"
  else str "/ping"

def fetch (sslEnabled : Bool) (server : Server) (config : Config)
    : Except StdException (Int × Bytes) :=
  if config.username ≠ [] then
    httpGetAuth sslEnabled server config.hostname config.port (apiPath config.checkType) false
      config.timeoutSeconds config.username config.password
  else
    httpGet sslEnabled server config.hostname config.port (apiPath config.checkType) false
      config.timeoutSeconds

def checkPing (statusCode : Int) : PluginResult :=
  if statusCode = 204 ∨ statusCode = 200 then
    { code := .ok, message := str "InfluxDB OK - Server is responding" }
  else
    { code := .critical
      message := str "InfluxDB CRITICAL - Ping failed (status: " ++ intDec statusCode ++ str ")" }

def checkHealth (statusCode : Int) (response : Bytes) : PluginResult :=
  if statusCode = 200 then
    let status := extractJsonValue response (str "status")
    if status = str "pass" ∨ status = str "ok" then
      { code := .ok, message := str "InfluxDB OK - Health check passed" }
    else
      { code := .critical
        message := str "InfluxDB CRITICAL - Health check failed (status: " ++ status ++ str ")" }
  else
    { code := .critical
      message := str "InfluxDB CRITICAL - Health check failed (status: " ++ intDec statusCode
        ++ str ")" }

def checkDatabases (statusCode : Int) (response : Bytes) : PluginResult :=
  if statusCode = 200 then
    let dbCount := countOccurrences response (str "\"name\"") (by decide) 0
    { code := .ok
      message := str "InfluxDB OK - " ++ natDec dbCount ++ str " databases"
      perfdata := str "databases=" ++ natDec dbCount }
  else if statusCode = 401 ∨ statusCode = 403 then
    { code := .critical
      message := str "InfluxDB CRITICAL - Authentication failed (status " ++ intDec statusCode
        ++ str ")" }
  else
    { code := .critical
      message := str "InfluxDB CRITICAL - Query failed (status: " ++ intDec statusCode ++ str ")" }

def judge (config : Config) (statusCode : Int) (response : Bytes) : PluginResult :=
  if statusCode = 0 ∨ response = [] then
    { code := .critical, message := str "InfluxDB CRITICAL - Cannot connect to API server" }
  else if config.checkType = str "ping" then
    checkPing statusCode
  else if config.checkType = str "health" then
    checkHealth statusCode response
  else if config.checkType = str "databases" then
    checkDatabases statusCode response
  else
    { code := .ok, message := str "InfluxDB OK - API responding" }

def check (sslEnabled : Bool) (server : Server) (config : Config) : PluginResult :=
  if config.hostname = [] then
    { code := .unknown, message := str "Hostname must be specified" }
  else
    match fetch sslEnabled server config with
    | .error e => { code := .unknown, message := str "InfluxDB check failed: " ++ e.what }
    | .ok (statusCode, response) => judge config statusCode response

open CommandLine

def settings : List (Setting Config) :=
  [.text ["-H", "--hostname"] (·.hostname) fun text config => { config with hostname := text },
    .int ["-p", "--port"] (·.port) fun number config => { config with port := number },
    .text ["-u", "--username"] (·.username) fun text config => { config with username := text },
    .text ["-P", "--password"] (·.password) fun text config => { config with password := text },
    .text ["-c", "--check"] (·.checkType) fun text config => { config with checkType := text },
    .int ["-T", "--timeout"] (·.timeoutSeconds)
      fun number config => { config with timeoutSeconds := number }]

def parseArguments (args : List Bytes) : Except Stop Config := scan (branchOf settings) {} args

end InfluxdbPlugin
end NetmonPlugins

import NetmonPlugins.Common.HttpApi.Impl
import NetmonPlugins.Common.Plugin
import NetmonPlugins.Common.Settings
import NetmonPlugins.Plugins.StatusPage

/-!
This module contains `check_phpfpm`.
-/

namespace NetmonPlugins
namespace PhpfpmPlugin

open StatusPage (metric spaced)

structure Config where
  hostname : Bytes := []
  port : Int := 80
  statusPath : Bytes := str "/status"
  pingPath : Bytes := str "/ping"
  timeoutSeconds : Int := 10
  useSSL : Bool := false
  checkPing : Bool := false

/-- A build without OpenSSL falls back to HTTP. -/
def Config.withAvailableSsl (sslEnabled : Bool) (config : Config) : Config :=
  if config.useSSL && !sslEnabled then
    { config with useSSL := false, port := if config.port = 443 then 80 else config.port }
  else
    config

def extractPhpfpmMetric (html label : Bytes) : Int := extractMetric html label

def labels : List Bytes :=
  [str "active processes", str "idle processes", str "total processes", str "max active processes",
    str "max children reached"]

def report (response : Bytes) : PluginResult :=
  let activeProcesses := extractPhpfpmMetric response (str "active processes")
  let idleProcesses := extractPhpfpmMetric response (str "idle processes")
  let totalProcesses := extractPhpfpmMetric response (str "total processes")
  let maxActiveProcesses := extractPhpfpmMetric response (str "max active processes")
  let maxChildrenReached := extractPhpfpmMetric response (str "max children reached")
  { code := .ok
    message := str "PHP-FPM OK - "
      ++ (if activeProcesses ≥ 0 ∧ idleProcesses ≥ 0 then
            intDec activeProcesses ++ str " active, " ++ intDec idleProcesses
              ++ str " idle processes"
          else
            str "Status endpoint responding")
    perfdata := spaced (metric (str "active_processes") activeProcesses)
      ++ spaced (metric (str "idle_processes") idleProcesses)
      ++ spaced (metric (str "total_processes") totalProcesses)
      ++ spaced (metric (str "max_active_processes") maxActiveProcesses)
      ++ metric (str "max_children_reached") maxChildrenReached }

def ping (response : Bytes) : PluginResult :=
  if contains response (str "pong") then
    { code := .ok, message := str "PHP-FPM OK - Ping successful" }
  else
    { code := .critical, message := str "PHP-FPM CRITICAL - Ping failed" }

def check (sslEnabled : Bool) (server : Server) (config : Config) : PluginResult :=
  if config.hostname = [] then
    { code := .unknown, message := str "Hostname must be specified" }
  else
    let config := config.withAvailableSsl sslEnabled
    let path := if config.checkPing then config.pingPath else config.statusPath
    match httpGet sslEnabled server config.hostname config.port path config.useSSL
      config.timeoutSeconds with
    | .error e => { code := .unknown, message := str "PHP-FPM check failed: " ++ e.what }
    | .ok (statusCode, response) =>
      if statusCode ≠ 200 ∨ response = [] then
        { code := .critical
          message :=
            str "PHP-FPM CRITICAL - Cannot connect to status endpoint or invalid response" }
      else if config.checkPing then
        ping response
      else
        report response

open CommandLine

def settings : List (Setting Config) :=
  [.text ["-H", "--hostname"] (·.hostname) fun text config => { config with hostname := text },
    .int ["-p", "--port"] (·.port) fun number config => { config with port := number },
    .text ["-u", "--uri"] (·.statusPath) fun text config => { config with statusPath := text },
    .fixed (·.pingPath) fun text config => { config with pingPath := text },
    .flag ["-S", "--ssl"] (·.useSSL) (fun flag config => { config with useSSL := flag }) true,
    .flag ["-P", "--ping"] (·.checkPing)
      (fun flag config => { config with checkPing := flag }) true,
    .int ["-t", "--timeout"] (·.timeoutSeconds)
      fun number config => { config with timeoutSeconds := number }]

def parseArguments (args : List Bytes) : Except Stop Config := scan (branchOf settings) {} args

end PhpfpmPlugin
end NetmonPlugins

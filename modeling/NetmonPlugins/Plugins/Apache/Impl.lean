import NetmonPlugins.Common.HttpApi.Impl
import NetmonPlugins.Common.Plugin
import NetmonPlugins.Common.Settings
import NetmonPlugins.Plugins.StatusPage

/-!
This module contains `check_apache`.
-/

namespace NetmonPlugins
namespace ApachePlugin

open StatusPage (metric spaced)

structure Config where
  hostname : Bytes := []
  port : Int := 80
  serverStatusPath : Bytes := str "/server-status"
  timeoutSeconds : Int := 10
  useSSL : Bool := false

/-- A build without OpenSSL falls back to HTTP. -/
def Config.withAvailableSsl (sslEnabled : Bool) (config : Config) : Config :=
  if config.useSSL && !sslEnabled then
    { config with useSSL := false, port := if config.port = 443 then 80 else config.port }
  else
    config

def extractApacheMetric (html label : Bytes) : Int := extractMetric html label

def labels : List Bytes :=
  [str "Total Accesses", str "Total kBytes", str "CPULoad", str "ReqPerSec", str "BytesPerSec",
    str "BusyWorkers", str "IdleWorkers"]

def report (response : Bytes) : PluginResult :=
  let totalAccesses := extractApacheMetric response (str "Total Accesses")
  let totalKBytes := extractApacheMetric response (str "Total kBytes")
  let cpuLoad := extractApacheMetric response (str "CPULoad")
  let requestsPerSec := extractApacheMetric response (str "ReqPerSec")
  let bytesPerSec := extractApacheMetric response (str "BytesPerSec")
  let workersBusy := extractApacheMetric response (str "BusyWorkers")
  let workersIdle := extractApacheMetric response (str "IdleWorkers")
  { code := .ok
    message := str "Apache OK - Server is responding"
      ++ (if workersBusy ≥ 0 ∧ workersIdle ≥ 0 then
            str " (" ++ intDec workersBusy ++ str " busy, " ++ intDec workersIdle
              ++ str " idle workers)"
          else
            [])
    perfdata := spaced (metric (str "total_accesses") totalAccesses)
      ++ spaced (metric (str "total_kbytes") totalKBytes)
      ++ spaced (metric (str "cpu_load") cpuLoad)
      ++ spaced (metric (str "req_per_sec") requestsPerSec)
      ++ spaced (metric (str "bytes_per_sec") bytesPerSec)
      ++ spaced (metric (str "busy_workers") workersBusy)
      ++ metric (str "idle_workers") workersIdle }

def check (sslEnabled : Bool) (server : Server) (config : Config) : PluginResult :=
  if config.hostname = [] then
    { code := .unknown, message := str "Hostname must be specified" }
  else
    let config := config.withAvailableSsl sslEnabled
    match httpGet sslEnabled server config.hostname config.port config.serverStatusPath
      config.useSSL config.timeoutSeconds with
    | .error e => { code := .unknown, message := str "Apache check failed: " ++ e.what }
    | .ok (statusCode, response) =>
      if statusCode ≠ 200 ∨ response = [] then
        { code := .critical
          message := str "Apache CRITICAL - Cannot connect to server-status or invalid response" }
      else
        report response

open CommandLine

def settings : List (Setting Config) :=
  [.text ["-H", "--hostname"] (·.hostname) fun text config => { config with hostname := text },
    .int ["-p", "--port"] (·.port) fun number config => { config with port := number },
    .text ["-u", "--uri"] (·.serverStatusPath)
      fun text config => { config with serverStatusPath := text },
    .flag ["-S", "--ssl"] (·.useSSL) (fun flag config => { config with useSSL := flag }) true,
    .int ["-t", "--timeout"] (·.timeoutSeconds)
      fun number config => { config with timeoutSeconds := number }]

def parseArguments (args : List Bytes) : Except Stop Config := scan (branchOf settings) {} args

end ApachePlugin
end NetmonPlugins

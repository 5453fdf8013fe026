import NetmonPlugins.Common.NtpClient.Impl
import NetmonPlugins.Common.Settings

/-!
This module contains `check_time`, which asks by NTP at port 123 and by the time protocol elsewhere.
-/

namespace NetmonPlugins
namespace TimePlugin

structure Config where
  hostname : Bytes := []
  port : Int := 37
  timeoutSeconds : Int := 10
  warningOffset : Double := .ofInt (-1)
  criticalOffset : Double := .ofInt (-1)

def message (config : Config) (code : ExitCode) (offset : Double) : Bytes :=
  str "TIME " ++ exitCodeToString code ++ str " - offset " ++ fixed 3 offset ++ str " seconds"
    ++ (if code = .ok then
          str " (" ++ config.hostname ++ str ":" ++ intDec config.port ++ str ")"
        else
          [])

def judge (config : Config) (result : NtpQueryResult) : PluginResult :=
  if !result.ok then
    { code := .critical, message := str "TIME CRITICAL - " ++ result.error }
  else
    let offset := result.offset_seconds
    let code := offsetCode config.warningOffset config.criticalOffset offset
    { code := code
      message := message config code offset
      perfdata := str "time_offset=" ++ fixed 3 offset ++ str "s"
        ++ (if config.warningOffset > 0 then
              str ";" ++ fixed 3 config.warningOffset ++ str ";" ++ fixed 3 config.criticalOffset
            else
              []) }

def query (system : queryNtpOffset.System α) (config : Config) : Receiver α NtpQueryResult :=
  if config.port = 123 then
    queryNtpOffset system config.hostname config.port config.timeoutSeconds
  else
    queryTimeProtocolOffset system config.hostname config.port config.timeoutSeconds

def check (system : queryNtpOffset.System α) (config : Config) : Receiver α PluginResult :=
  if config.hostname = [] then
    .done { code := .unknown, message := str "TIME UNKNOWN - hostname must be specified" }
  else
    (query system config).map (judge config)

open CommandLine

def settings : List (Setting Config) :=
  [.text ["-H", "--hostname"] (·.hostname) fun text config => { config with hostname := text },
    .int ["-p", "--port"] (·.port) fun number config => { config with port := number },
    .double ["-w", "--warning"] (·.warningOffset)
      fun number config => { config with warningOffset := number },
    .double ["-c", "--critical"] (·.criticalOffset)
      fun number config => { config with criticalOffset := number },
    .int ["-t", "--timeout"] (·.timeoutSeconds)
      fun number config => { config with timeoutSeconds := number }]

def parseArguments (args : List Bytes) : Except Stop Config := scan (branchOf settings) {} args

end TimePlugin
end NetmonPlugins

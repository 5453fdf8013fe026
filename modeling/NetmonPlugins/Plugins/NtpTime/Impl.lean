import NetmonPlugins.Common.NtpClient.Impl
import NetmonPlugins.Common.Settings

/-!
This module contains `check_ntp_time`.
-/

namespace NetmonPlugins
namespace NtpTimePlugin

structure Config where
  hostname : Bytes := str "pool.ntp.org"
  port : Int := 123
  timeoutSeconds : Int := 10
  warningOffset : Double := 1
  criticalOffset : Double := 5

def judge (config : Config) (result : NtpQueryResult) : PluginResult :=
  if !result.ok then
    { code := .critical, message := str "NTP time CRITICAL - " ++ result.error }
  else
    let offset := result.offset_seconds
    let code := offsetCode config.warningOffset config.criticalOffset offset
    { code := code
      message := str "NTP time " ++ exitCodeToString code ++ str " - offset " ++ fixed 3 offset
        ++ str "s"
        ++ (if code = .ok then
              str " on " ++ config.hostname ++ str ":" ++ intDec config.port
            else
              [])
      perfdata := str "ntp_time_offset=" ++ fixed 3 offset ++ str "s" }

def check (system : queryNtpOffset.System α) (config : Config) : Receiver α PluginResult :=
  (queryNtpOffset system config.hostname config.port config.timeoutSeconds).map (judge config)

open CommandLine

def settings : List (Setting Config) :=
  [.text ["-H", "--hostname"] (·.hostname) fun text config => { config with hostname := text },
    .int ["-p", "--port"] (·.port) fun number config => { config with port := number },
    .double ["-w", "--warning"] (·.warningOffset)
      fun number config => { config with warningOffset := number },
    .double ["-c", "--critical"] (·.criticalOffset)
      fun number config => { config with criticalOffset := number },
    .int ["-t", "--timeout"] (·.timeoutSeconds)
      fun number config => { config with timeoutSeconds := number }]

def parseArguments (args : List Bytes) : Except Stop Config := scan (branchOf settings) {} args

end NtpTimePlugin
end NetmonPlugins

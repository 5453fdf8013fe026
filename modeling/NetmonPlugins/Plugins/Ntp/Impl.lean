import NetmonPlugins.Common.NtpClient.Impl
import NetmonPlugins.Common.Settings

/-!
This module contains `check_ntp`.
-/

namespace NetmonPlugins
namespace NtpPlugin

structure Config where
  hostname : Bytes := str "pool.ntp.org"
  port : Int := 123
  timeoutSeconds : Int := 10
  warningOffset : Double := 1
  criticalOffset : Double := 5

def message (config : Config) (code : ExitCode) (offset : Double) (stratum : Int) : Bytes :=
  str "NTP " ++ exitCodeToString code ++ str " - Time offset: " ++ fixed 3 offset
    ++ match code with
      | .critical =>
        str " seconds (threshold: " ++ fixed 3 config.criticalOffset ++ str ")"
      | .warning =>
        str " seconds (threshold: " ++ fixed 3 config.warningOffset ++ str ")"
      | _ => str " seconds (stratum " ++ intDec stratum ++ str ")"

def judge (config : Config) (result : NtpQueryResult) : PluginResult :=
  if !result.ok then
    { code := .critical, message := str "NTP CRITICAL - " ++ result.error }
  else
    let offset := result.offset_seconds
    let code := offsetCode config.warningOffset config.criticalOffset offset
    { code := code
      message := message config code offset result.stratum
      perfdata := str "ntp_offset=" ++ fixed 3 offset ++ str "s"
        ++ (if config.warningOffset > 0 then
              str ";" ++ fixed 3 config.warningOffset ++ str ";" ++ fixed 3 config.criticalOffset
            else
              []) }

def check (system : queryNtpOffset.System α) (config : Config) : Receiver α PluginResult :=
  (queryNtpOffset system config.hostname config.port config.timeoutSeconds).map (judge config)

open CommandLine

def settings : List (Setting Config) :=
  [.text ["-H", "--hostname"] (·.hostname) fun text config => { config with hostname := text },
    .int ["-p", "--port"] (·.port) fun number config => { config with port := number },
    .double ["-w", "--warning"] (·.warningOffset)
      fun number config => { config with warningOffset := number },
    .double ["-c", "--critical"] (·.criticalOffset)
      fun number config => { config with criticalOffset := number },
    .int ["-t", "--timeout"] (·.timeoutSeconds)
      fun number config => { config with timeoutSeconds := number }]

def parseArguments (args : List Bytes) : Except Stop Config := scan (branchOf settings) {} args

end NtpPlugin
end NetmonPlugins

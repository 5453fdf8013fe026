import NetmonPlugins.Common.NtpClient.Impl
import NetmonPlugins.Common.Settings

/-!
This module contains `check_ntp_peer`. A threshold of zero or less is not set.
-/

namespace NetmonPlugins
namespace NtpPeerPlugin

structure Config where
  hostname : Bytes := str "pool.ntp.org"
  port : Int := 123
  timeoutSeconds : Int := 10
  warningStratum : Int := 10
  criticalStratum : Int := 16

def stratumCode (config : Config) (stratum : Int) : ExitCode :=
  if stratum = 0 then
    .critical
  else if config.criticalStratum > 0 ∧ stratum ≥ config.criticalStratum then
    .critical
  else if config.warningStratum > 0 ∧ stratum ≥ config.warningStratum then
    .warning
  else
    .ok

def message (config : Config) (code : ExitCode) (result : NtpQueryResult) : Bytes :=
  str "NTP peer " ++ exitCodeToString code ++ str " - "
    ++ match code with
      | .critical =>
        if result.stratum = 0 then
          config.hostname ++ str " returned invalid stratum 0"
        else
          str "stratum " ++ intDec result.stratum ++ str " >= " ++ intDec config.criticalStratum
      | .warning =>
        str "stratum " ++ intDec result.stratum ++ str " >= " ++ intDec config.warningStratum
      | _ =>
        config.hostname ++ str ":" ++ intDec config.port ++ str " stratum " ++ intDec result.stratum
          ++ str ", offset " ++ fixed 3 result.offset_seconds ++ str "s"

def judge (config : Config) (result : NtpQueryResult) : PluginResult :=
  if !result.ok then
    { code := .critical, message := str "NTP peer CRITICAL - unreachable: " ++ result.error }
  else
    let code := stratumCode config result.stratum
    { code := code
      message := message config code result
      perfdata := str "ntp_stratum=" ++ intDec result.stratum
        ++ (if config.warningStratum > 0 then
              str ";" ++ intDec config.warningStratum ++ str ";" ++ intDec config.criticalStratum
            else
              [])
        ++ str " ntp_offset=" ++ fixed 3 result.offset_seconds ++ str "s" }

def check (system : queryNtpOffset.System α) (config : Config) : Receiver α PluginResult :=
  (queryNtpOffset system config.hostname config.port config.timeoutSeconds).map (judge config)

open CommandLine

def settings : List (Setting Config) :=
  [.text ["-H", "--hostname"] (·.hostname) fun text config => { config with hostname := text },
    .int ["-p", "--port"] (·.port) fun number config => { config with port := number },
    .int ["-w", "--warning"] (·.warningStratum)
      fun number config => { config with warningStratum := number },
    .int ["-c", "--critical"] (·.criticalStratum)
      fun number config => { config with criticalStratum := number },
    .int ["-t", "--timeout"] (·.timeoutSeconds)
      fun number config => { config with timeoutSeconds := number }]

def parseArguments (args : List Bytes) : Except Stop Config := scan (branchOf settings) {} args

end NtpPeerPlugin
end NetmonPlugins

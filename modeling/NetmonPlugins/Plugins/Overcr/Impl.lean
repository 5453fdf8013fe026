import NetmonPlugins.Common.Plugin
import NetmonPlugins.Common.Settings
import NetmonPlugins.Cxx.Numeric

/-!
This module contains `check_overcr` as it is built on Linux. A threshold of zero or less is not set.
-/

namespace NetmonPlugins
namespace OvercrPlugin

structure Config where
  warningPercent : Double := .ofInt (-1)
  criticalPercent : Double := .ofInt (-1)

structure MemInfo where
  memTotal : Int := 0
  memAvailable : Int := 0
  commitLimit : Int := 0
  committed : Int := 0

def scanCounter (name line : Bytes) : Option Int := scanLongLong ((cstr line).drop name.length)

/-- Where `sscanf` finds no number, the old value remains. -/
def MemInfo.readLine (info : MemInfo) (line : Bytes) : MemInfo :=
  if find line (str "MemTotal:") 0 = some 0 then
    { info with memTotal := (scanCounter (str "MemTotal:") line).getD info.memTotal }
  else if find line (str "MemAvailable:") 0 = some 0 then
    { info with memAvailable := (scanCounter (str "MemAvailable:") line).getD info.memAvailable }
  else if find line (str "CommitLimit:") 0 = some 0 then
    { info with commitLimit := (scanCounter (str "CommitLimit:") line).getD info.commitLimit }
  else if find line (str "Committed_AS:") 0 = some 0 then
    { info with committed := (scanCounter (str "Committed_AS:") line).getD info.committed }
  else
    info

def readMemInfo (text : Bytes) : MemInfo := (getlines [] text).foldl MemInfo.readLine {}

/-- `none` where `/proc/meminfo` does not open. -/
def getOvercommitRatio (meminfo : Option Bytes) : Except StdException Double :=
  match meminfo with
  | some text =>
    let info := readMemInfo text
    if info.commitLimit > 0 then
      .ok ((.ofInt info.committed / .ofInt info.commitLimit) * 100)
    else
      .ok 0
  | none => .error (.runtimeError (str "Failed to read /proc/meminfo"))

def checkThresholds (config : Config) (overcommitRatio : Double) : ExitCode × Bytes :=
  if config.criticalPercent > 0 ∧ overcommitRatio > config.criticalPercent then
    (.critical, str " (threshold: " ++ fixed 1 config.criticalPercent ++ str "%)")
  else if config.warningPercent > 0 ∧ overcommitRatio > config.warningPercent then
    (.warning, str " (threshold: " ++ fixed 1 config.warningPercent ++ str "%)")
  else
    (.ok, [])

def check (meminfo : Option Bytes) (config : Config) : PluginResult :=
  match getOvercommitRatio meminfo with
  | .ok overcommitRatio =>
    let (code, threshold) := checkThresholds config overcommitRatio
    { code := code
      message := str "Overcommit " ++ exitCodeToString code ++ str " - "
        ++ fixed 1 overcommitRatio ++ str "% of commit limit used" ++ threshold
      perfdata := str "overcommit=" ++ fixed 1 overcommitRatio ++ str "%"
        ++ (if config.warningPercent > 0 then
              str ";" ++ fixed 1 config.warningPercent ++ str ";" ++ fixed 1 config.criticalPercent
            else
              []) }
  | .error e => { code := .unknown, message := str "Overcommit check failed: " ++ e.what }

open CommandLine

def settings : List (Setting Config) :=
  [.double ["-w", "--warning"] (·.warningPercent)
      fun number config => { config with warningPercent := number },
    .double ["-c", "--critical"] (·.criticalPercent)
      fun number config => { config with criticalPercent := number }]

def parseArguments (args : List Bytes) : Except Stop Config := scan (branchOf settings) {} args

end OvercrPlugin
end NetmonPlugins

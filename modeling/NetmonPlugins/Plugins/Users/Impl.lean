import NetmonPlugins.Common.Plugin
import NetmonPlugins.Common.Settings

/-!
This module contains `check_users` as it is built on Linux. A threshold of zero or less is not set.
-/

namespace NetmonPlugins
namespace UsersPlugin

structure Config where
  warningThreshold : Int := -1
  criticalThreshold : Int := -1

/-- The check reads the type of a record, and nothing else of it. -/
structure Utmp where
  ut_type : Int16
  deriving DecidableEq

def USER_PROCESS : Int16 := 7

/-- `while ((entry = getutent()) != nullptr)` -/
def getUserCount (entries : List Utmp) : Int :=
  entries.foldl (fun count entry => if entry.ut_type = USER_PROCESS then count + 1 else count) 0

def users (userCount : Int) : Bytes :=
  intDec userCount ++ str " user" ++ (if userCount ≠ 1 then str "s" else [])

def checkThresholds (config : Config) (userCount : Int) : ExitCode × Bytes :=
  if config.criticalThreshold > 0 ∧ userCount ≥ config.criticalThreshold then
    (.critical, str "Users CRITICAL - " ++ users userCount ++ str " logged in (threshold: "
      ++ intDec config.criticalThreshold ++ str ")")
  else if config.warningThreshold > 0 ∧ userCount ≥ config.warningThreshold then
    (.warning, str "Users WARNING - " ++ users userCount ++ str " logged in (threshold: "
      ++ intDec config.warningThreshold ++ str ")")
  else
    (.ok, str "Users OK - " ++ users userCount ++ str " currently logged in")

def perfdata (config : Config) (userCount : Int) : Bytes :=
  str "users=" ++ intDec userCount
    ++ (if config.warningThreshold > 0 then
          str ";" ++ intDec config.warningThreshold ++ str ";" ++ intDec config.criticalThreshold
        else
          [])

def check (entries : List Utmp) (config : Config) : PluginResult :=
  let userCount := getUserCount entries
  let (code, message) := checkThresholds config userCount
  { code := code, message := message, perfdata := perfdata config userCount }

open CommandLine

def settings : List (Setting Config) :=
  [.int ["-w", "--warning"] (·.warningThreshold)
      fun number config => { config with warningThreshold := number },
    .int ["-c", "--critical"] (·.criticalThreshold)
      fun number config => { config with criticalThreshold := number }]

def parseArguments (args : List Bytes) : Except Stop Config := scan (branchOf settings) {} args

end UsersPlugin
end NetmonPlugins

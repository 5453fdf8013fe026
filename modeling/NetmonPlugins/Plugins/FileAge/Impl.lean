import NetmonPlugins.Common.CommandLine
import NetmonPlugins.Common.Plugin
import NetmonPlugins.Cxx.Integer

/-!
This module contains `check_file_age` and its command line. A threshold below zero is not set.
-/

namespace NetmonPlugins
namespace FileAgePlugin

structure Config where
  filePath : Bytes := []
  warningAge : Int := -1
  criticalAge : Int := -1
  checkExists : Bool := true

/-- `access` succeeds or not, and `stat` finds the time of the last change or fails. -/
structure FileSystem where
  access : Bytes → Bool
  st_mtime : Bytes → Option Int

/-- The two times are taken to be so near that their difference is in the range of `long`. -/
def getFileAge (fileSystem : FileSystem) (now : Int) (path : Bytes) : Int :=
  match fileSystem.st_mtime path with
  | some mtime => now - mtime
  | none => -1

def plural (unit : Bytes) (amount : Int) : Bytes :=
  intDec amount ++ unit ++ (if amount ≠ 1 then str "s" else [])

def formatAge (seconds : Int) : Bytes :=
  if seconds < 60 then
    plural (str " second") seconds
  else if seconds < 3600 then
    plural (str " minute") (seconds.tdiv 60)
  else if seconds < 86400 then
    plural (str " hour") (seconds.tdiv 3600)
  else
    plural (str " day") (seconds.tdiv 86400)

def checkThresholds (config : Config) (age : Int) : ExitCode × Bytes :=
  if config.criticalAge ≥ 0 ∧ age ≥ config.criticalAge then
    (.critical, str " (exceeds critical threshold of " ++ formatAge config.criticalAge ++ str ")")
  else if config.warningAge ≥ 0 ∧ age ≥ config.warningAge then
    (.warning, str " (exceeds warning threshold of " ++ formatAge config.warningAge ++ str ")")
  else
    (.ok, [])

def perfdata (config : Config) (age : Int) : Bytes :=
  str "age=" ++ intDec age ++ str "s"
    ++ (if config.warningAge ≥ 0 then
          str ";" ++ intDec config.warningAge ++ str ";" ++ intDec config.criticalAge
        else
          [])

/-- Nothing in the `try` block throws. -/
def check (fileSystem : FileSystem) (now : Int) (config : Config) : PluginResult :=
  if config.filePath = [] then
    { code := .unknown, message := str "File path must be specified" }
  else if fileSystem.access config.filePath = false then
    { code := if config.checkExists then .critical else .ok
      message := str "File does not exist: " ++ config.filePath }
  else
    let age := getFileAge fileSystem now config.filePath
    if age < 0 then
      { code := .unknown, message := str "Failed to get file age: " ++ config.filePath }
    else
      let (code, exceeded) := checkThresholds config age
      { code := code
        message := str "File age check: " ++ config.filePath ++ str " is " ++ formatAge age
          ++ str " old" ++ exceeded
        perfdata := perfdata config age }

open CommandLine

/-- `static_cast<int>(value * factor)`. -/
def scaled (value factor : Int) : Except Fault Int :=
  match mulLong value factor with
  | some product => .ok (intOfLong product)
  | none => .error .precondition

def parseTime (timeStr : Bytes) : Except Fault Int :=
  if timeStr = [] then
    .ok (-1)
  else
    match stol timeStr with
    | .error e => .error (.exception e)
    | .ok value =>
      match timeStr.drop (stolPos timeStr) with
      | [] => .ok (intOfLong value)
      | unit :: _ =>
        -- `s`, `m`, `h` and `d` in both cases.
        if unit = 115 ∨ unit = 83 then
          .ok (intOfLong value)
        else if unit = 109 ∨ unit = 77 then
          scaled value 60
        else if unit = 104 ∨ unit = 72 then
          scaled value 3600
        else if unit = 100 ∨ unit = 68 then
          scaled value 86400
        else
          .ok (intOfLong value)

def setWarning (timeStr : Bytes) : Except Fault (Config → Config) :=
  (parseTime timeStr).map fun age config => { config with warningAge := age }

def setCritical (timeStr : Bytes) : Except Fault (Config → Config) :=
  (parseTime timeStr).map fun age config => { config with criticalAge := age }

def branch (arg : Bytes) : Branch Config :=
  if arg = str "-h" ∨ arg = str "--help" then
    .help
  else if arg = str "-f" ∨ arg = str "--file" then
    .value fun path => .ok fun config => { config with filePath := path }
  else if arg = str "-w" ∨ arg = str "--warning" then
    .value setWarning
  else if arg = str "-c" ∨ arg = str "--critical" then
    .value setCritical
  else if arg = str "-O" ∨ arg = str "--ok-if-missing" then
    .set fun config => { config with checkExists := false }
  else if arg.head? ≠ some 45 then
    .set fun config => if config.filePath = [] then { config with filePath := arg } else config
  else
    .set id

def parseArguments (args : List Bytes) : Except Stop Config := scan branch {} args

end FileAgePlugin
end NetmonPlugins

import NetmonPlugins.Common.CommandLine

/-!
This module contains `check_procs` as it is built on Linux. A bound of zero or less is not set.
-/

namespace NetmonPlugins
namespace ProcsPlugin

open CommandLine

structure Config where
  warningMin : Int := -1
  criticalMin : Int := -1
  warningMax : Int := -1
  criticalMax : Int := -1
  processName : Bytes := []

/-- An entry of `/proc`: its name, the bytes of its file `cmdline` and whether that file opens. -/
structure Entry where
  d_name : Bytes
  cmdline : Bytes
  opens : Bool

def Entry.isPid (entry : Entry) : Bool :=
  match entry.d_name with
  | [] => false
  | b :: _ => isDigit b

def getline (text : Bytes) : Bytes := text.takeWhile (· ≠ 10)

def Entry.isCounted (processName : Bytes) (entry : Entry) : Bool :=
  if entry.isPid then
    if processName = [] then
      true
    else if entry.opens then
      contains (getline entry.cmdline) processName
    else
      false
  else
    false

def countEntries (processName : Bytes) (count : Int) : List Entry → Int
  | [] => count
  | entry :: entries =>
    countEntries processName (if entry.isCounted processName then count + 1 else count) entries

def countProcesses (procDir : Option (List Entry)) (processName : Bytes) : Int :=
  match procDir with
  | none => 0
  | some entries => countEntries processName 0 entries

def procDesc (config : Config) : Bytes :=
  if config.processName = [] then
    str "processes"
  else
    str "process '" ++ config.processName ++ str "'"

def message (config : Config) (code : ExitCode) (processCount : Int) (bound : Bytes) : Bytes :=
  str "Processes " ++ exitCodeToString code ++ str " - " ++ intDec processCount ++ str " "
    ++ procDesc config ++ str " running" ++ bound

def minimum (bound : Int) : Bytes := str " (minimum: " ++ intDec bound ++ str ")"

def maximum (bound : Int) : Bytes := str " (maximum: " ++ intDec bound ++ str ")"

def checkThresholds (config : Config) (processCount : Int) : ExitCode × Bytes :=
  if config.criticalMin > 0 ∧ processCount < config.criticalMin then
    (.critical, minimum config.criticalMin)
  else if config.criticalMax > 0 ∧ processCount > config.criticalMax then
    (.critical, maximum config.criticalMax)
  else if config.warningMin > 0 ∧ processCount < config.warningMin then
    (.warning, minimum config.warningMin)
  else if config.warningMax > 0 ∧ processCount > config.warningMax then
    (.warning, maximum config.warningMax)
  else
    (.ok, [])

def orZero (bound : Int) : Bytes := intDec (if bound > 0 then bound else 0)

def perfdata (config : Config) (processCount : Int) : Bytes :=
  str "procs=" ++ intDec processCount
    ++ (if config.warningMin > 0 ∨ config.warningMax > 0 then
          str ";" ++ orZero config.warningMin ++ str ";" ++ orZero config.criticalMin
            ++ (if config.warningMax > 0 ∨ config.criticalMax > 0 then
                  str ";" ++ orZero config.warningMax ++ str ";" ++ orZero config.criticalMax
                else
                  [])
        else
          [])

/-- Nothing in the `try` block throws. -/
def check (procDir : Option (List Entry)) (config : Config) : PluginResult :=
  let processCount := countProcesses procDir config.processName
  let (code, bound) := checkThresholds config processCount
  { code := code
    message := message config code processCount bound
    perfdata := perfdata config processCount }

def setWarning (threshold : Bytes) : Except Fault (Config → Config) :=
  match find threshold (str ":") 0 with
  | some colon => do
    let storeMin ← converted (stoi (substr threshold 0 colon))
      fun min config => { config with warningMin := min }
    let storeMax ← converted (stoi (threshold.drop (colon + 1)))
      fun max config => { config with warningMax := max }
    return storeMax ∘ storeMin
  | none => converted (stoi threshold) fun max config => { config with warningMax := max }

def setCritical (threshold : Bytes) : Except Fault (Config → Config) :=
  match find threshold (str ":") 0 with
  | some colon => do
    let storeMin ← converted (stoi (substr threshold 0 colon))
      fun min config => { config with criticalMin := min }
    let storeMax ← converted (stoi (threshold.drop (colon + 1)))
      fun max config => { config with criticalMax := max }
    return storeMax ∘ storeMin
  | none => converted (stoi threshold) fun max config => { config with criticalMax := max }

def branch (arg : Bytes) : Branch Config :=
  if arg = str "-h" ∨ arg = str "--help" then
    .help
  else if arg = str "-w" ∨ arg = str "--warning" then
    .value setWarning
  else if arg = str "-c" ∨ arg = str "--critical" then
    .value setCritical
  else if arg = str "-a" ∨ arg = str "--argument" then
    .value fun name => .ok fun config => { config with processName := name }
  else
    .set id

def parseArguments (args : List Bytes) : Except Stop Config := scan branch {} args

end ProcsPlugin
end NetmonPlugins

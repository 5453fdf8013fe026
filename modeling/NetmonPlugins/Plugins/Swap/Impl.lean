import NetmonPlugins.Common.Plugin
import NetmonPlugins.Common.Settings

/-!
This module contains `check_swap` as it is built on Linux. A threshold of zero or less is not set.
-/

namespace NetmonPlugins
namespace SwapPlugin

structure Config where
  -- In KB.
  warningFree : Int := -1
  criticalFree : Int := -1
  warningPercent : Double := .ofInt (-1)
  criticalPercent : Double := .ofInt (-1)

structure SysInfo where
  totalswap : UInt64
  freeswap : UInt64
  mem_unit : UInt32
  deriving DecidableEq

structure SwapInfo where
  -- In KB.
  total : Int
  used : Int
  free : Int
  deriving DecidableEq

def kilobytes (units : UInt64) (mem_unit : UInt32) : Int := (units * mem_unit.toUInt64 / 1024).toNat

/-- `none` where the call of `sysinfo` fails. -/
def getSwapInfo (sysinfo : Option SysInfo) : Except StdException SwapInfo :=
  match sysinfo with
  | some si =>
    let total := kilobytes si.totalswap si.mem_unit
    let free := kilobytes si.freeswap si.mem_unit
    .ok { total := total, used := total - free, free := free }
  | none => .error (.runtimeError (str "Failed to get system info"))

def formatSize (kb : Int) : Bytes :=
  if kb ≥ 1024 * 1024 then intDec (kb / (1024 * 1024)) ++ str "GB"
  else if kb ≥ 1024 then intDec (kb / 1024) ++ str "MB"
  else intDec kb ++ str "KB"

def usedPercent (swap : SwapInfo) : Double :=
  ((.ofLongLong swap.used / .ofLongLong swap.total : Double).round * 100).round

def freePercent (swap : SwapInfo) : Double := (100 - usedPercent swap).round

def checkThresholds (config : Config) (swap : SwapInfo) : ExitCode :=
  if config.criticalFree > 0 ∧ swap.free < config.criticalFree then
    .critical
  else if config.criticalPercent > 0 ∧ freePercent swap < config.criticalPercent then
    .critical
  else if config.warningFree > 0 ∧ swap.free < config.warningFree then
    .warning
  else if config.warningPercent > 0 ∧ freePercent swap < config.warningPercent then
    .warning
  else
    .ok

def message (code : ExitCode) (swap : SwapInfo) : Bytes :=
  str "Swap " ++ exitCodeToString code ++ str " - " ++ formatSize swap.free ++ str " free ("
    ++ fixed 1 (freePercent swap)
    ++ (if code = .ok then
          str "% free) | " ++ formatSize swap.used ++ str " used (" ++ fixed 1 (usedPercent swap)
            ++ str "% used)"
        else
          str "% free)")

def bound (free : Int) (percent : Double) (total : Int) : Int :=
  if free > 0 then free else ((percent * .ofLongLong total).round / 100).round.toLongLong

def perfdata (config : Config) (swap : SwapInfo) : Bytes :=
  str "swap_total=" ++ intDec swap.total ++ str "KB "
    ++ str "swap_used=" ++ intDec swap.used ++ str "KB "
    ++ str "swap_free=" ++ intDec swap.free ++ str "KB "
    ++ str "swap_used_percent=" ++ fixed 1 (usedPercent swap) ++ str "%"
    ++ (if config.warningFree > 0 ∨ config.warningPercent > 0 then
          str ";" ++ intDec (bound config.warningFree config.warningPercent swap.total)
        else
          [])
    ++ (if config.criticalFree > 0 ∨ config.criticalPercent > 0 then
          str ";" ++ intDec (bound config.criticalFree config.criticalPercent swap.total)
        else
          [])

def check (sysinfo : Option SysInfo) (config : Config) : PluginResult :=
  match getSwapInfo sysinfo with
  | .ok swap =>
    if swap.total = 0 then
      { code := .ok, message := str "No swap space configured" }
    else
      let code := checkThresholds config swap
      { code := code, message := message code swap, perfdata := perfdata config swap }
  | .error e =>
    { code := .unknown, message := str "Failed to get swap information: " ++ e.what }

open CommandLine

def setThreshold (threshold : Bytes) : Except Fault (Double × Int → Double × Int) :=
  -- `threshold.back() == '%'`
  match threshold.getLast? with
  | none => .error .precondition
  | some last =>
    if last = 37 then
      converted (stod threshold.dropLast) fun percent bounds => (percent, bounds.2)
    else
      converted (stoll threshold) fun free bounds => (bounds.1, free)

def warning : Setting Config where
  Part := Double × Int
  get config := (config.warningPercent, config.warningFree)
  put bounds config := { config with warningPercent := bounds.1, warningFree := bounds.2 }
  get_put _ _ := rfl
  put_get _ := rfl
  members := [⟨_, Prod.fst⟩, ⟨_, Prod.snd⟩]
  members_ext _ _ h := by
    simp only [List.forall_mem_cons] at h
    exact Prod.ext h.1 h.2.1
  options := [([str "-w", str "--warning"], .value setThreshold)]

def critical : Setting Config where
  Part := Double × Int
  get config := (config.criticalPercent, config.criticalFree)
  put bounds config := { config with criticalPercent := bounds.1, criticalFree := bounds.2 }
  get_put _ _ := rfl
  put_get _ := rfl
  members := [⟨_, Prod.fst⟩, ⟨_, Prod.snd⟩]
  members_ext _ _ h := by
    simp only [List.forall_mem_cons] at h
    exact Prod.ext h.1 h.2.1
  options := [([str "-c", str "--critical"], .value setThreshold)]

def settings : List (Setting Config) :=
  [warning,
    critical]

def parseArguments (args : List Bytes) : Except Stop Config := scan (branchOf settings) {} args

end SwapPlugin
end NetmonPlugins

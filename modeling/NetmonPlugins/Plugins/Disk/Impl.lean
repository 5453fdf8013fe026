import NetmonPlugins.Common.CommandLine
import NetmonPlugins.Common.Plugin
import NetmonPlugins.Cxx.Strtod

/-!
This module contains `check_disk` as it is built on Linux, and its command line. A threshold of zero
or less is not set; one that ends in a percent sign is a `double`, any other is a `long long`.
-/

namespace NetmonPlugins
namespace DiskPlugin

structure Config where
  warningPercent : Double := 10
  criticalPercent : Double := 5
  -- In MB.
  warningFree : Int := -1
  criticalFree : Int := -1
  paths : List Bytes := []

structure StatVfs where
  f_frsize : UInt64
  f_blocks : UInt64
  f_bfree : UInt64
  f_bavail : UInt64
  deriving DecidableEq

structure DiskInfo where
  path : Bytes
  -- In MB.
  total : Int
  used : Int
  available : Int
  usedPercent : Double
  freePercent : Double
  deriving DecidableEq

/-- `statvfs` for each path; a failure is what `strerror` says about it. -/
abbrev FileSystem := Bytes → Except Bytes StatVfs

def megabytes (bytes : UInt64) : Int := (bytes / (1024 * 1024)).toNat

def getDiskInfo (statvfs : FileSystem) (path : Bytes) : Except StdException DiskInfo :=
  match statvfs path with
  | .ok vfs =>
    let totalBytes := vfs.f_blocks * vfs.f_frsize
    let freeBytes := vfs.f_bavail * vfs.f_frsize
    let usedBytes := totalBytes - vfs.f_bfree * vfs.f_frsize
    let total := megabytes totalBytes
    let used := megabytes usedBytes
    let usedPercent := ((.ofLongLong used / .ofLongLong total : Double).round * 100).round
    .ok { path := path
          total := total
          used := used
          available := megabytes freeBytes
          usedPercent := usedPercent
          freePercent := (100 - usedPercent).round }
  | .error errno =>
    .error (.runtimeError (str "Failed to get disk space for " ++ path ++ str ": " ++ errno))

def formatSize (mb : Int) : Bytes :=
  if mb ≥ 1024 then intDec (mb / 1024) ++ str "GB" else intDec mb ++ str "MB"

def checkThresholds (config : Config) (info : DiskInfo) : Bool × Bool :=
  if config.criticalFree > 0 ∧ info.available < config.criticalFree then
    (true, false)
  else if config.criticalPercent > 0 ∧ info.freePercent < config.criticalPercent then
    (true, false)
  else if config.warningFree > 0 ∧ info.available < config.warningFree then
    (false, true)
  else if config.warningPercent > 0 ∧ info.freePercent < config.warningPercent then
    (false, true)
  else
    (false, false)

structure Report where
  overallCode : ExitCode := .ok
  msg : Bytes := []
  perfdata : Bytes := []

def appendItem (text item : Bytes) : Bytes :=
  (if text ≠ [] then text ++ str " " else text) ++ item

/-- `info.total * (100.0 - percent) / 100.0` -/
def usedShare (info : DiskInfo) (percent : Double) : Double :=
  ((.ofLongLong info.total * (100 - percent).round).round / 100).round

def usedLimit (info : DiskInfo) (percent : Double) : Int := (usedShare info percent).toLongLong

def perfdataItem (config : Config) (info : DiskInfo) : Bytes :=
  info.path ++ str "=" ++ intDec info.used ++ str "MB;"
    ++ intDec (if config.warningFree > 0 then
          config.warningFree
        else
          usedLimit info config.warningPercent)
    ++ str ";"
    ++ intDec (if config.criticalFree > 0 then
          config.criticalFree
        else
          usedLimit info config.criticalPercent)
    ++ str ";" ++ intDec info.total ++ str ";0"

def Report.add (statvfs : FileSystem) (config : Config) (report : Report) (path : Bytes) : Report :=
  match getDiskInfo statvfs path with
  | .ok info =>
    let (isCritical, isWarning) := checkThresholds config info
    { overallCode :=
        if isCritical then
          .critical
        else if isWarning ∧ report.overallCode = .ok then
          .warning
        else
          report.overallCode
      msg := appendItem report.msg
        (path ++ str ": " ++ formatSize info.available ++ str " free ("
          ++ fixed 1 info.freePercent ++ str "% free)")
      perfdata := appendItem report.perfdata (perfdataItem config info) }
  | .error e =>
    { report with
      overallCode := if report.overallCode = .ok then .unknown else report.overallCode
      msg := appendItem report.msg (path ++ str ": " ++ e.what) }

def Config.checkedPaths (config : Config) : List Bytes :=
  if config.paths = [] then [str "/"] else config.paths

def check (statvfs : FileSystem) (config : Config) : PluginResult :=
  let report := config.checkedPaths.foldl (Report.add statvfs config) {}
  { code := report.overallCode
    message := str "Disk " ++ exitCodeToString report.overallCode ++ str " - " ++ report.msg
    perfdata := report.perfdata }

open CommandLine

def setThreshold (setPercent : Double → Config → Config) (setFree : Int → Config → Config)
    (threshold : Bytes) : Except Fault (Config → Config) :=
  -- `threshold.back() == '%'`
  match threshold.getLast? with
  | none => .error .precondition
  | some last =>
    if last = 37 then
      converted (stod threshold.dropLast) setPercent
    else
      converted (stoll threshold) setFree

def setWarning : Bytes → Except Fault (Config → Config) :=
  setThreshold (fun percent config => { config with warningPercent := percent })
    (fun free config => { config with warningFree := free })

def setCritical : Bytes → Except Fault (Config → Config) :=
  setThreshold (fun percent config => { config with criticalPercent := percent })
    (fun free config => { config with criticalFree := free })

def branch (arg : Bytes) : Branch Config :=
  if arg = str "-h" ∨ arg = str "--help" then
    .help
  else if arg = str "-w" ∨ arg = str "--warning" then
    .value setWarning
  else if arg = str "-c" ∨ arg = str "--critical" then
    .value setCritical
  else if arg.head? ≠ some 45 then
    .set fun config => { config with paths := config.paths ++ [arg] }
  else
    .set id

def parseArguments (args : List Bytes) : Except Stop Config := scan branch {} args

/-- The bound that a percentage stands for is converted where no amount of free space is set. -/
def limitFits (info : DiskInfo) (free : Int) (percent : Double) : Bool :=
  decide (free > 0) || (usedShare info percent).fitsLongLong

def limitsFit (statvfs : FileSystem) (config : Config) : Bool :=
  config.checkedPaths.all fun path =>
    match getDiskInfo statvfs path with
    | .ok info =>
      limitFits info config.warningFree config.warningPercent
        && limitFits info config.criticalFree config.criticalPercent
    | .error _ => true

def run (statvfs : FileSystem) (config : Config) : Ending :=
  if limitsFit statvfs config then
    .exit (executePlugin (.ok (check statvfs config))).2
  else
    .undefined

def main (statvfs : FileSystem) (args : List Bytes) : Ending :=
  CommandLine.main branch {} (run statvfs) args

end DiskPlugin
end NetmonPlugins

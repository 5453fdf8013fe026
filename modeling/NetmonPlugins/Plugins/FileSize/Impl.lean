import NetmonPlugins.Common.CommandLine
import NetmonPlugins.Common.Plugin
import NetmonPlugins.Cxx.Integer

/-!
This module contains `check_file_size` and its command line. A threshold below zero is not set.
-/

namespace NetmonPlugins
namespace FileSizePlugin

structure Config where
  filePath : Bytes := []
  warningSize : Int := -1
  criticalSize : Int := -1

/-- `access` succeeds or not, and `stat` finds a size or fails. -/
structure FileSystem where
  access : Bytes → Bool
  st_size : Bytes → Option Int

def getFileSize (fileSystem : FileSystem) (path : Bytes) : Int :=
  match fileSystem.st_size path with
  | some size => size
  | none => -1

def formatSize (bytes : Int) : Bytes :=
  if bytes < 1024 then
    intDec bytes ++ str " B"
  else if bytes < 1024 * 1024 then
    intDec (bytes.tdiv 1024) ++ str " KB"
  else if bytes < 1024 * 1024 * 1024 then
    intDec (bytes.tdiv (1024 * 1024)) ++ str " MB"
  else
    intDec (bytes.tdiv (1024 * 1024 * 1024)) ++ str " GB"

def checkThresholds (config : Config) (size : Int) : ExitCode × Bytes :=
  if config.criticalSize ≥ 0 ∧ size ≥ config.criticalSize then
    (.critical,
      str " (exceeds critical threshold of " ++ formatSize config.criticalSize ++ str ")")
  else if config.warningSize ≥ 0 ∧ size ≥ config.warningSize then
    (.warning, str " (exceeds warning threshold of " ++ formatSize config.warningSize ++ str ")")
  else
    (.ok, [])

def perfdata (config : Config) (size : Int) : Bytes :=
  str "size=" ++ intDec size ++ str "B"
    ++ (if config.warningSize ≥ 0 then
          str ";" ++ intDec config.warningSize ++ str ";" ++ intDec config.criticalSize
        else
          [])

/-- Nothing in the `try` block throws. -/
def check (fileSystem : FileSystem) (config : Config) : PluginResult :=
  if config.filePath = [] then
    { code := .unknown, message := str "File path must be specified" }
  else if fileSystem.access config.filePath = false then
    { code := .critical, message := str "File does not exist: " ++ config.filePath }
  else
    let size := getFileSize fileSystem config.filePath
    if size < 0 then
      { code := .unknown, message := str "Failed to get file size: " ++ config.filePath }
    else
      let (code, exceeded) := checkThresholds config size
      { code := code
        message := str "File size check: " ++ config.filePath ++ str " is " ++ formatSize size
          ++ exceeded
        perfdata := perfdata config size }

open CommandLine

/-- The product of `value` and the factors, from left to right. -/
def scaled (value : Int) : (factors : List Int) → Except Fault Int
  | [] => .ok value
  | factor :: factors =>
    match mulLong value factor with
    | some product => scaled product factors
    | none => .error .precondition

def parseSize (sizeStr : Bytes) : Except Fault Int :=
  if sizeStr = [] then
    .ok (-1)
  else
    match stol sizeStr with
    | .error e => .error (.exception e)
    | .ok value =>
      match sizeStr.drop (stolPos sizeStr) with
      | [] => .ok value
      | unit :: _ =>
        -- `b`, `k`, `m` and `g` in both cases.
        if unit = 98 ∨ unit = 66 then
          .ok value
        else if unit = 107 ∨ unit = 75 then
          scaled value [1024]
        else if unit = 109 ∨ unit = 77 then
          scaled value [1024, 1024]
        else if unit = 103 ∨ unit = 71 then
          scaled value [1024, 1024, 1024]
        else
          .ok value

def setWarning (sizeStr : Bytes) : Except Fault (Config → Config) :=
  (parseSize sizeStr).map fun size config => { config with warningSize := size }

def setCritical (sizeStr : Bytes) : Except Fault (Config → Config) :=
  (parseSize sizeStr).map fun size config => { config with criticalSize := size }

def branch (arg : Bytes) : Branch Config :=
  if arg = str "-h" ∨ arg = str "--help" then
    .help
  else if arg = str "-f" ∨ arg = str "--file" then
    .value fun path => .ok fun config => { config with filePath := path }
  else if arg = str "-w" ∨ arg = str "--warning" then
    .value setWarning
  else if arg = str "-c" ∨ arg = str "--critical" then
    .value setCritical
  else if arg.head? ≠ some 45 then
    .set fun config => if config.filePath = [] then { config with filePath := arg } else config
  else
    .set id

def parseArguments (args : List Bytes) : Except Stop Config := scan branch {} args

end FileSizePlugin
end NetmonPlugins

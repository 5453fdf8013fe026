import NetmonPlugins.Common.Plugin
import NetmonPlugins.Common.Settings
import NetmonPlugins.Cxx.Integer
import NetmonPlugins.Cxx.Numeric

/-!
This module contains `check_log` as it is built on Linux. A threshold below zero is not set.
-/

namespace NetmonPlugins
namespace LogPlugin

structure Config where
  logFile : Bytes := []
  pattern : Bytes := []
  oldLogFile : Bytes := []
  warningCount : Int := -1
  criticalCount : Int := -1
  caseSensitive : Bool := true
  invertMatch : Bool := false

/-- `ifstream` leads to the bytes that can be read, if the file can be opened. Both the constructor
of `std::regex` and `std::regex_search` throw a `std::regex_error`, here by its text. -/
structure System where
  access : Bytes → Bool
  ifstream : Bytes → Option Bytes
  st_size : Bytes → Option Int
  regex : Bytes → (icase : Bool) → Except Bytes (Bytes → Except Bytes Bool)

def getFileSize (system : System) (path : Bytes) : Int :=
  match system.st_size path with
  | some size => size
  | none => -1

/-- The loop over `getline`, whose counter is an `int`. -/
def countLines (regex_search : Bytes → Except Bytes Bool) (invertMatch : Bool) (matchCount : Int)
    : List Bytes → Except StdException Int
  | [] => .ok matchCount
  | line :: lines =>
    match regex_search line with
    | .error what => .error (.runtimeError what)
    | .ok found =>
      let counts := if invertMatch then !found else found
      let matchCount := if counts then intOfLong (matchCount + 1) else matchCount
      countLines regex_search invertMatch matchCount lines

def countMatches (system : System) (config : Config) (filePath searchPattern : Bytes)
    : Except StdException Int :=
  match system.ifstream filePath with
  | none => .error (.runtimeError (str "Cannot open log file: " ++ filePath))
  | some text =>
    match system.regex searchPattern (!config.caseSensitive) with
    | .error what => .error (.runtimeError (str "Invalid regex pattern: " ++ what))
    | .ok regex_search => countLines regex_search config.invertMatch 0 (getlines [] text)

def exitCode (config : Config) (matchCount : Int) : ExitCode :=
  if config.criticalCount ≥ 0 ∧ matchCount ≥ config.criticalCount then
    .critical
  else if config.warningCount ≥ 0 ∧ matchCount ≥ config.warningCount then
    .warning
  else
    .ok

def message (config : Config) (matchCount fileSize : Int) : Bytes :=
  str "Log file check: " ++ config.logFile
    ++ (if config.pattern ≠ [] then
          str " - " ++ intDec matchCount ++ str " match" ++ (if matchCount ≠ 1 then str "es" else [])
        else
          str " - file exists and is readable")
    ++ (if fileSize ≥ 0 then str " (" ++ intDec fileSize ++ str " bytes)" else [])

def perfdata (config : Config) (matchCount fileSize : Int) : Bytes :=
  str "matches=" ++ intDec matchCount
    ++ (if config.warningCount ≥ 0 then
          str ";" ++ intDec config.warningCount ++ str ";" ++ intDec config.criticalCount
        else
          [])
    ++ (if fileSize ≥ 0 then str " size=" ++ intDec fileSize ++ str "B" else [])

/-- What the `try` block counts: without a pattern the file is not opened. -/
def matchCount (system : System) (config : Config) : Except StdException Int :=
  if config.pattern ≠ [] then countMatches system config config.logFile config.pattern else .ok 0

def check (system : System) (config : Config) : PluginResult :=
  if config.logFile = [] then
    { code := .unknown, message := str "Log file path must be specified" }
  else if !system.access config.logFile then
    { code := .critical, message := str "Log file does not exist: " ++ config.logFile }
  else
    match matchCount system config with
    | .error e => { code := .unknown, message := str "Log check failed: " ++ e.what }
    | .ok matchCount =>
      let fileSize := getFileSize system config.logFile
      { code := exitCode config matchCount
        message := message config matchCount fileSize
        perfdata := perfdata config matchCount fileSize }

open CommandLine

def settings : List (Setting Config) :=
  [.textOrArgument ["-f", "--file"] (·.logFile)
      fun text config => { config with logFile := text },
    .text ["-q", "--query"] (·.pattern) fun text config => { config with pattern := text },
    .int ["-w", "--warning"] (·.warningCount)
      fun number config => { config with warningCount := number },
    .int ["-c", "--critical"] (·.criticalCount)
      fun number config => { config with criticalCount := number },
    .flag ["-i", "--case-insensitive"] (·.caseSensitive)
      (fun flag config => { config with caseSensitive := flag }) false,
    .flag ["-v", "--invert-match"] (·.invertMatch)
      (fun flag config => { config with invertMatch := flag }) true,
    .text ["-O", "--oldlog"] (·.oldLogFile) fun text config => { config with oldLogFile := text }]

def parseArguments (args : List Bytes) : Except Stop Config := scan (branchOf settings) {} args

end LogPlugin
end NetmonPlugins

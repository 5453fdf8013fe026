import NetmonPlugins.Common.Plugin
import NetmonPlugins.Common.Settings

/-!
This module contains the check of `check_file_count` as it is built on Linux. A threshold below zero
is not set.
-/

namespace NetmonPlugins
namespace FileCountPlugin

structure Config where
  directory : Bytes := []
  pattern : Bytes := []
  recursive : Bool := false
  warningCount : Int := -1
  criticalCount : Int := -1
  countDirectories : Bool := false

/-- `stat` tells whether a path is a directory or fails, and `opendir` leads to the names of the
entries or fails. -/
structure FileSystem where
  s_isdir : Bytes → Option Bool
  opendir : Bytes → Option (List Bytes)

def isDirectory (fileSystem : FileSystem) (path : Bytes) : Bool :=
  match fileSystem.s_isdir path with
  | some isDir => isDir
  | none => false

/-- The loop from the rest of the pattern and the rest of the name. -/
def matchFrom : (pat filename : Bytes) → Bool
  | [], filename => filename = []
  | _ :: _, [] => false
  | c :: pat, b :: filename =>
    if c = 42 then
      match pat with
      | [] => true
      | next :: rest =>
        -- The loop goes on in front of the byte that was found.
        match (b :: filename).dropWhile (· ≠ next) with
        | [] => false
        | found => matchFrom (next :: rest) found
    else if c = 63 ∨ c = b then
      matchFrom pat filename
    else
      false

def matchesPattern (filename pat : Bytes) : Bool :=
  if pat = [] then true else matchFrom pat filename

structure Options where
  pat : Bytes
  recursive : Bool
  countDirs : Bool

/-- The loop over `readdir`; `sub` is what the recursive call returns. -/
def countEntries (fileSystem : FileSystem) (options : Options) (sub : Bytes → Int) (dir : Bytes)
    (count : Int)
    : List Bytes → Int
  | [] => count
  | name :: names =>
    if name = str "." ∨ name = str ".." then
      countEntries fileSystem options sub dir count names
    else
      let fullPath := dir ++ str "/" ++ name
      let isDir := isDirectory fileSystem fullPath
      let subCount := if isDir ∧ options.recursive then sub fullPath else 0
      let count := if subCount ≥ 0 then count + subCount else count
      let count :=
        if (¬isDir ∨ options.countDirs) ∧ matchesPattern name options.pat then count + 1 else count
      countEntries fileSystem options sub dir count names

/--
`fds` is the number of file descriptors that are left; a directory stays open during the calls for
what is below it. A path grows with each call, and none of `PATH_MAX` bytes is opened.
-/
def countFiles (fileSystem : FileSystem) (options : Options) : (fds : Nat) → (dir : Bytes) → Int
  | 0, _ => -1
  | fds + 1, dir =>
    match fileSystem.opendir dir with
    | none => -1
    | some names =>
      countEntries fileSystem options (countFiles fileSystem options fds) dir 0 names

def pathMax : Nat := 4096

def checkThresholds (config : Config) (count : Int) : ExitCode × Bytes :=
  if config.criticalCount ≥ 0 ∧ count ≥ config.criticalCount then
    (.critical,
      str " (exceeds critical threshold of " ++ intDec config.criticalCount ++ str ")")
  else if config.warningCount ≥ 0 ∧ count ≥ config.warningCount then
    (.warning, str " (exceeds warning threshold of " ++ intDec config.warningCount ++ str ")")
  else
    (.ok, [])

def perfdata (config : Config) (count : Int) : Bytes :=
  str "count=" ++ intDec count
    ++ (if config.warningCount ≥ 0 then
          str ";" ++ intDec config.warningCount ++ str ";" ++ intDec config.criticalCount
        else
          [])

def Config.options (config : Config) : Options where
  pat := config.pattern
  recursive := config.recursive
  countDirs := config.countDirectories

/-- Nothing in the `try` block throws. No walk needs more than `PATH_MAX` descriptors. -/
def check (fileSystem : FileSystem) (config : Config) : PluginResult :=
  if config.directory = [] then
    { code := .unknown, message := str "Directory path must be specified" }
  else if isDirectory fileSystem config.directory = false then
    { code := .critical, message := str "Directory does not exist: " ++ config.directory }
  else
    let count := countFiles fileSystem config.options pathMax config.directory
    if count < 0 then
      { code := .unknown
        message := str "Failed to count files in directory: " ++ config.directory }
    else
      let (code, exceeded) := checkThresholds config count
      { code := code
        message := str "File count: " ++ config.directory ++ str " contains " ++ intDec count
          ++ str " file" ++ (if count ≠ 1 then str "s" else [])
          ++ (if config.pattern ≠ [] then
                str " matching pattern \"" ++ config.pattern ++ str "\""
              else
                [])
          ++ exceeded
        perfdata := perfdata config count }

open CommandLine

def settings : List (Setting Config) :=
  [.textOrArgument ["-d", "--directory"] (·.directory)
      fun text config => { config with directory := text },
    .text ["-p", "--pattern"] (·.pattern) fun text config => { config with pattern := text },
    .flag ["-r", "--recursive"] (·.recursive)
      (fun flag config => { config with recursive := flag }) true,
    .flag ["-D", "--count-dirs"] (·.countDirectories)
      (fun flag config => { config with countDirectories := flag }) true,
    .int ["-w", "--warning"] (·.warningCount)
      fun number config => { config with warningCount := number },
    .int ["-c", "--critical"] (·.criticalCount)
      fun number config => { config with criticalCount := number }]

def parseArguments (args : List Bytes) : Except Stop Config := scan (branchOf settings) {} args

end FileCountPlugin
end NetmonPlugins

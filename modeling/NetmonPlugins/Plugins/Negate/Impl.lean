import NetmonPlugins.Common.CommandLine

/-!
This module contains `check_negate`, which runs another command through `system` and inverts its
exit code.
-/

namespace NetmonPlugins
namespace NegatePlugin

open CommandLine

structure Config where
  command : Bytes := []
  args : List Bytes := []
  -- A local variable of the argument loop.
  inCommand : Bool := false
  deriving DecidableEq

def invertExitCode (exitCode : Int) : ExitCode :=
  if exitCode = 0 then
    .critical
  else if exitCode = 1 then
    .warning
  else if exitCode = 2 then
    .ok
  else
    .unknown

def cmdLine (config : Config) : Bytes :=
  config.args.foldl (fun cmdLine arg => cmdLine ++ str " " ++ arg) config.command

def wifexited (status : Int) : Bool := status % 128 = 0

def wexitstatus (status : Int) : Int := status / 256 % 256

def check (system : Bytes → Int) (config : Config) : PluginResult :=
  if config.command = [] then
    { code := .unknown, message := str "Command must be specified" }
  else
    let exitCode := system (cstr (cmdLine config))
    let actualExitCode := if wifexited exitCode then wexitstatus exitCode else 3
    let invertedCode := invertExitCode actualExitCode
    { code := invertedCode
      message := str "Negated exit code: " ++ intDec actualExitCode ++ str " -> "
        ++ intDec invertedCode.toInt }

def branch (arg : Bytes) : Branch Config :=
  if arg = str "-h" ∨ arg = str "--help" then
    .help
  else if arg = str "-c" ∨ arg = str "--command" then
    .value fun command =>
      .ok fun config => { config with command := command, inCommand := true }
  else
    .set fun config =>
      if config.inCommand ∨ config.command ≠ [] then
        { config with args := config.args ++ [arg] }
      else
        -- First argument is the command
        { config with command := arg, inCommand := true }

def parseArguments (args : List Bytes) : Except Stop Config := scan branch {} args

end NegatePlugin
end NetmonPlugins

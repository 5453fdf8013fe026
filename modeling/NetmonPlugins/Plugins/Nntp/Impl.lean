import NetmonPlugins.Common.LineProtocol
import NetmonPlugins.Common.Settings

/-!
This module contains `check_nntp`.
-/

namespace NetmonPlugins
namespace NntpPlugin

structure Config where
  hostname : Bytes := []
  port : Int := 119
  username : Bytes := []
  password : Bytes := []

def checkNntp (connected : Bool) (user pass : Bytes) : Dialogue Bool := do
  if !connected then
    return false
  -- The comment in the source says that the greeting should start with 200 or 201.
  let response ← readResponse
  if response = [] || (!startsWith response '2' && !startsWith response '4') then
    return false
  if user ≠ [] ∧ pass ≠ [] then
    if !(← sendCommand (str "AUTHINFO USER " ++ user)) then
      return false
    let response ← readResponse
    if response = [] || !startsWith response '3' then
      return false
    if !(← sendCommand (str "AUTHINFO PASS " ++ pass)) then
      return false
    let response ← readResponse
    if response = [] || !startsWith response '2' then
      return false
  let _ ← sendCommand (str "QUIT")
  let _ ← readResponse
  return true

def check (connected : Bool) (config : Config) : Dialogue PluginResult :=
  checkService (str "NNTP") config.hostname config.port
    (checkNntp connected config.username config.password)

open CommandLine

def settings : List (Setting Config) :=
  [.text ["-H", "--hostname"] (·.hostname) fun text config => { config with hostname := text },
    .int ["-p", "--port"] (·.port) fun number config => { config with port := number },
    .unread stoi ["-t", "--timeout"],
    .text ["-u", "--username"] (·.username) fun text config => { config with username := text },
    .text ["-P", "--password"] (·.password) fun text config => { config with password := text }]

def parseArguments (args : List Bytes) : Except Stop Config := scan (branchOf settings) {} args

end NntpPlugin
end NetmonPlugins

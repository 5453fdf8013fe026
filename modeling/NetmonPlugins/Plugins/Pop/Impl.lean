import NetmonPlugins.Common.CommandLine
import NetmonPlugins.Common.LineProtocol

/-!
This module contains `check_pop`. The option `-S` changes the port and nothing else.
-/

namespace NetmonPlugins
namespace PopPlugin

open CommandLine

structure Config where
  hostname : Bytes := []
  port : Int := 110
  username : Bytes := []
  password : Bytes := []
  useSSL : Bool := false

def isPositive (response : Bytes) : Bool := contains response (str "+OK")

def checkPop (connected : Bool) (user pass : Bytes) : Dialogue Bool := do
  if !connected then
    return false
  let response ← readResponse
  if response = [] || !isPositive response then
    return false
  if user ≠ [] then
    if !(← sendCommand (str "USER " ++ user)) then
      return false
    let response ← readResponse
    if response = [] || !isPositive response then
      return false
    if pass ≠ [] then
      if !(← sendCommand (str "PASS " ++ pass)) then
        return false
      let response ← readResponse
      if response = [] || !isPositive response then
        return false
      let _ ← sendCommand (str "QUIT")
      let _ ← readResponse
  return true

def Config.effectivePort (sslEnabled : Bool) (config : Config) : Int :=
  if config.useSSL && !sslEnabled && config.port = 995 then 110 else config.port

def check (sslEnabled connected : Bool) (config : Config) : Dialogue PluginResult :=
  checkService (str "POP3") config.hostname (config.effectivePort sslEnabled)
    (checkPop connected config.username config.password)

def branch (arg : Bytes) : Branch Config :=
  if arg = str "-h" ∨ arg = str "--help" then
    .help
  else if arg = str "-H" ∨ arg = str "--hostname" then
    .value fun value => .ok fun config => { config with hostname := value }
  else if arg = str "-p" ∨ arg = str "--port" then
    .value fun value => converted (stoi value) fun port config => { config with port := port }
  else if arg = str "-t" ∨ arg = str "--timeout" then
    -- How long the reads wait is part of what the network does.
    .value fun value => converted (stoi value) fun _ => id
  else if arg = str "-u" ∨ arg = str "--username" then
    .value fun value => .ok fun config => { config with username := value }
  else if arg = str "-P" ∨ arg = str "--password" then
    .value fun value => .ok fun config => { config with password := value }
  else if arg = str "-S" ∨ arg = str "--ssl" then
    .set fun config =>
      { config with useSSL := true, port := if config.port = 110 then 995 else config.port }
  else
    .set id

def parseArguments (args : List Bytes) : Except Stop Config := scan branch {} args

end PopPlugin
end NetmonPlugins

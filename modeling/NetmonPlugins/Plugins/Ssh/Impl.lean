import NetmonPlugins.Common.LineProtocol
import NetmonPlugins.Common.Settings

/-!
This module contains `check_ssh`. Its option for the expected text does not exist.
-/

namespace NetmonPlugins
namespace SshPlugin

structure Config where
  hostname : Bytes := []
  port : Int := 22

def checkSsh (connected : Bool) : Dialogue Bool := do
  if !connected then
    return false
  let response ← readResponse
  return contains response (str "SSH")

def check (connected : Bool) (config : Config) : Dialogue PluginResult := do
  if config.hostname = [] then
    return hostnameMissing
  let success ← checkSsh connected
  let doing := if success then str "accepting connections" else str "responding"
  return availability (str "SSH") config.hostname config.port doing success

open CommandLine

def settings : List (Setting Config) :=
  [.text ["-H", "--hostname"] (·.hostname) fun text config => { config with hostname := text },
    .int ["-p", "--port"] (·.port) fun number config => { config with port := number },
    .unread stoi ["-t", "--timeout"]]

def parseArguments (args : List Bytes) : Except Stop Config := scan (branchOf settings) {} args

end SshPlugin
end NetmonPlugins

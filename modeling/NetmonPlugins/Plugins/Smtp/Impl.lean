import NetmonPlugins.Common.LineProtocol
import NetmonPlugins.Common.Settings

/-!
This module contains `check_smtp`.
-/

namespace NetmonPlugins
namespace SmtpPlugin

structure Config where
  hostname : Bytes := []
  port : Int := 25
  expectString : Bytes := str "220"

def checkSmtp (connected : Bool) (expectString : Bytes) : Dialogue Bool := do
  if !connected then
    return false
  let response ← readResponse
  if response = [] then
    return false
  return contains response expectString

def check (connected : Bool) (config : Config) : Dialogue PluginResult := do
  if config.hostname = [] then
    return hostnameMissing
  let success ← checkSmtp connected config.expectString
  let doing := if success then str "accepting connections" else str "responding"
  return availability (str "SMTP") config.hostname config.port doing success

open CommandLine

def settings : List (Setting Config) :=
  [.text ["-H", "--hostname"] (·.hostname) fun text config => { config with hostname := text },
    .int ["-p", "--port"] (·.port) fun number config => { config with port := number },
    .unread stoi ["-t", "--timeout"],
    .text ["-e", "--expect"] (·.expectString)
      fun text config => { config with expectString := text }]

def parseArguments (args : List Bytes) : Except Stop Config := scan (branchOf settings) {} args

end SmtpPlugin
end NetmonPlugins

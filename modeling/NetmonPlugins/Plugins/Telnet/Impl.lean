import NetmonPlugins.Common.LineProtocol
import NetmonPlugins.Common.Settings

/-!
This module contains `check_telnet`.
-/

namespace NetmonPlugins
namespace TelnetPlugin

structure Config where
  hostname : Bytes := []
  port : Int := 23
  expectString : Bytes := []
  sendString : Bytes := []

def isExpected (expect response : Bytes) : Bool := expect = [] || contains response expect

def checkTelnet (connected : Bool) (send expect : Bytes) : Dialogue Bool := do
  if !connected then
    return false
  let response ← readResponse
  if send ≠ [] then
    -- Whether it was sent is not looked at.
    let _ ← sendCommand send
    let response ← readResponse
    return isExpected expect response
  return isExpected expect response

def check (connected : Bool) (config : Config) : Dialogue PluginResult :=
  checkService (str "TELNET") config.hostname config.port
    (checkTelnet connected config.sendString config.expectString)

open CommandLine

def settings : List (Setting Config) :=
  [.text ["-H", "--hostname"] (·.hostname) fun text config => { config with hostname := text },
    .int ["-p", "--port"] (·.port) fun number config => { config with port := number },
    .unread stoi ["-t", "--timeout"],
    .text ["-s", "--send"] (·.sendString) fun text config => { config with sendString := text },
    .text ["-e", "--expect"] (·.expectString)
      fun text config => { config with expectString := text }]

def parseArguments (args : List Bytes) : Except Stop Config := scan (branchOf settings) {} args

end TelnetPlugin
end NetmonPlugins

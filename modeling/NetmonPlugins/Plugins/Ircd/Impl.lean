import NetmonPlugins.Common.LineProtocol
import NetmonPlugins.Common.Settings

/-!
This module contains `check_ircd`.
-/

namespace NetmonPlugins
namespace IrcdPlugin

structure Config where
  hostname : Bytes := []
  port : Int := 6667
  nickname : Bytes := str "monitor"

/-- The welcome numeric; a nickname in use is also accepted. -/
def isWelcome (response : Bytes) : Bool :=
  contains response (str "001") || contains response (str "433")

def checkIrcd (connected : Bool) (nick : Bytes) : Dialogue Bool := do
  if !connected then
    return false
  let response ← readResponse
  if response = [] then
    return false
  if !(← sendCommand (str "NICK " ++ nick)) then
    return false
  if !(← sendCommand (str "USER " ++ nick ++ str " 0 * :Monitoring Bot")) then
    return false
  let response ← readResponse
  let success := isWelcome response
  let _ ← sendCommand (str "QUIT")
  let _ ← readResponse
  return success

def check (connected : Bool) (config : Config) : Dialogue PluginResult :=
  checkService (str "IRC") config.hostname config.port (checkIrcd connected config.nickname)

open CommandLine

def settings : List (Setting Config) :=
  [.text ["-H", "--hostname"] (·.hostname) fun text config => { config with hostname := text },
    .int ["-p", "--port"] (·.port) fun number config => { config with port := number },
    .unread stoi ["-t", "--timeout"],
    .text ["-n", "--nickname"] (·.nickname) fun text config => { config with nickname := text }]

def parseArguments (args : List Bytes) : Except Stop Config := scan (branchOf settings) {} args

end IrcdPlugin
end NetmonPlugins

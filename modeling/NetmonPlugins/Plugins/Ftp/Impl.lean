import NetmonPlugins.Common.LineProtocol
import NetmonPlugins.Common.Settings

/-!
This module contains `check_ftp`.
-/

namespace NetmonPlugins
namespace FtpPlugin

structure Config where
  hostname : Bytes := []
  port : Int := 21
  username : Bytes := []
  password : Bytes := []
  anonymous : Bool := false

def loginUser (user : Bytes) (anon : Bool) : Bytes :=
  if anon then str "anonymous" else if user = [] then str "anonymous" else user

def loginPass (pass : Bytes) (anon : Bool) : Bytes :=
  if anon then str "anonymous@" else pass

def quit : Dialogue Bool := do
  let _ ← sendCommand (str "QUIT")
  let _ ← readResponse
  return true

def passAnswer : Dialogue Bool := do
  let response ← readResponse
  if response = [] || !startsWith response '2' then
    return false
  quit

def sendPass (pass : Bytes) (anon : Bool) : Dialogue Bool := do
  if !(← sendCommand (str "PASS " ++ loginPass pass anon)) then
    return false
  passAnswer

def userAnswer (pass : Bytes) (anon : Bool) : Dialogue Bool := do
  let response ← readResponse
  if response = [] || (!startsWith response '3' && !startsWith response '2') then
    return false
  if startsWith response '3' then
    sendPass pass anon
  else
    quit

def sendUser (user pass : Bytes) (anon : Bool) : Dialogue Bool := do
  if !(← sendCommand (str "USER " ++ loginUser user anon)) then
    return false
  userAnswer pass anon

def checkFtp (connected : Bool) (user pass : Bytes) (anon : Bool) : Dialogue Bool := do
  if !connected then
    return false
  let response ← readResponse
  if response = [] || !startsWith response '2' then
    return false
  sendUser user pass anon

def check (connected : Bool) (config : Config) : Dialogue PluginResult :=
  checkService (str "FTP") config.hostname config.port
    (checkFtp connected config.username config.password config.anonymous)

open CommandLine

def settings : List (Setting Config) :=
  [.text ["-H", "--hostname"] (·.hostname) fun text config => { config with hostname := text },
    .int ["-p", "--port"] (·.port) fun number config => { config with port := number },
    .unread stoi ["-t", "--timeout"],
    .text ["-u", "--username"] (·.username) fun text config => { config with username := text },
    .text ["-P", "--password"] (·.password) fun text config => { config with password := text },
    .flag ["-a", "--anonymous"] (·.anonymous)
      (fun flag config => { config with anonymous := flag }) true]

def parseArguments (args : List Bytes) : Except Stop Config := scan (branchOf settings) {} args

end FtpPlugin
end NetmonPlugins

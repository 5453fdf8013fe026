import NetmonPlugins.Common.LineProtocol
import NetmonPlugins.Common.Settings

/-!
This module contains `check_jabber`. The user name and the password are not used.
-/

namespace NetmonPlugins
namespace JabberPlugin

structure Config where
  hostname : Bytes := []
  port : Int := 5222

def receiveXmpp : Dialogue Bytes := .read 4095 (fun _ => true) [] .done

def sendXmpp (data : Bytes) : Dialogue Bool := .send data .done

def streamHeader (hostname : Bytes) : Bytes :=
  str "<?xml version='1.0'?>\n"
    ++ str "<stream:stream to='" ++ hostname
    ++ str "' xmlns='jabber:client' xmlns:stream='http://etherx.jabber.org/streams' version='1.0'>\n"

def isStream (response : Bytes) : Bool :=
  contains response (str "<?xml") || contains response (str "<stream:stream")

def isFeatures (response : Bytes) : Bool :=
  contains response (str "<stream:features") || contains response (str "<features")
    || contains response (str "xmlns")

def critical (reason : Bytes) : PluginResult :=
  { code := .critical, message := str "Jabber CRITICAL - " ++ reason }

def check (connected : Bool) (config : Config) : Dialogue PluginResult := do
  if config.hostname = [] then
    return hostnameMissing
  if !connected then
    return critical (str "Cannot connect to " ++ config.hostname ++ str ":" ++ intDec config.port)
  let response ← receiveXmpp
  if !isStream response then
    return critical (str "Invalid XMPP stream response")
  if !(← sendXmpp (streamHeader config.hostname)) then
    return critical (str "Cannot send stream header")
  let response ← receiveXmpp
  let _ ← sendXmpp (str "</stream:stream>")
  if isFeatures response then
    return {
      code := .ok
      message := str "Jabber OK - XMPP service is responding on " ++ config.hostname ++ str ":"
        ++ intDec config.port }
  else
    return {
      code := .warning
      message := str "Jabber WARNING - Connected but response format unexpected" }

open CommandLine

def settings : List (Setting Config) :=
  [.text ["-H", "--hostname"] (·.hostname) fun text config => { config with hostname := text },
    .int ["-p", "--port"] (·.port) fun number config => { config with port := number },
    .unreadText ["-u", "--username"],
    .unreadText ["-P", "--password"],
    .unread stoi ["-t", "--timeout"]]

def parseArguments (args : List Bytes) : Except Stop Config := scan (branchOf settings) {} args

end JabberPlugin
end NetmonPlugins

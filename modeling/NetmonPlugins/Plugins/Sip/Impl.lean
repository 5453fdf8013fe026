import NetmonPlugins.Common.LineProtocol
import NetmonPlugins.Common.Settings
import NetmonPlugins.Net.Datagram

/-!
This module contains `check_sip`.
-/

namespace NetmonPlugins
namespace SipPlugin

structure Config where
  hostname : Bytes := []
  port : Int := 5060
  fromUser : Bytes := str "monitor"
  toUser : Bytes := str "monitor"

def request (host sender recipient : Bytes) : Bytes :=
  str "OPTIONS sip:" ++ recipient ++ str "@" ++ host ++ str " SIP/2.0" ++ crlf
    ++ str "Via: SIP/2.0/UDP " ++ host ++ str ";branch=z9hG4bK776asdhds" ++ crlf
    ++ str "From: <sip:" ++ sender ++ str "@" ++ host ++ str ">;tag=1928301774" ++ crlf
    ++ str "To: <sip:" ++ recipient ++ str "@" ++ host ++ str ">" ++ crlf
    ++ str "Call-ID: test@" ++ host ++ crlf
    ++ str "CSeq: 1 OPTIONS" ++ crlf
    ++ str "Contact: <sip:" ++ sender ++ str "@" ++ host ++ str ">" ++ crlf
    ++ str "Content-Length: 0" ++ crlf
    ++ crlf

/-- The name is resolved once more for the request. -/
def sendSipOptions (resolved : Bool) (host sender recipient : Bytes) : Exchange Bytes :=
  if !resolved then
    .done []
  else
    .sendto (request host sender recipient) <| .recvfrom 4095 fun
      | some response => .done (cstr response)
      | none => .done []

/-- A server that knows the method is as good as one that refuses it. -/
def isResponding (response : Bytes) : Bool :=
  contains response (str "SIP/2.0 200") || contains response (str "SIP/2.0 405")
    || contains response (str "SIP/2.0 501")

def checkResponse (config : Config) (response : Bytes) : PluginResult :=
  let address := config.hostname ++ str ":" ++ intDec config.port
  if response = [] then
    { code := .critical, message := str "SIP CRITICAL - No response from " ++ address }
  else if isResponding response then
    { code := .ok, message := str "SIP OK - Server is responding on " ++ address }
  else if contains response (str "SIP/2.0") then
    { code := .warning
      message := str "SIP WARNING - Server responded with non-OK status on " ++ address }
  else
    { code := .critical, message := str "SIP CRITICAL - Invalid response from " ++ address }

def check (addressed resolved : Bool) (config : Config) : Exchange PluginResult :=
  if config.hostname = [] then
    .done hostnameMissing
  else if !addressed then
    .done
      { code := .critical
        message := str "SIP CRITICAL - Cannot create socket for " ++ config.hostname ++ str ":"
          ++ intDec config.port }
  else
    (sendSipOptions resolved config.hostname config.fromUser config.toUser).map
      (checkResponse config)

open CommandLine

def settings : List (Setting Config) :=
  [.text ["-H", "--hostname"] (·.hostname) fun text config => { config with hostname := text },
    .int ["-p", "--port"] (·.port) fun number config => { config with port := number },
    .text ["-f", "--from"] (·.fromUser) fun text config => { config with fromUser := text },
    .text ["-t", "--to"] (·.toUser) fun text config => { config with toUser := text },
    .unread stoi ["-T", "--timeout"]]

def parseArguments (args : List Bytes) : Except Stop Config := scan (branchOf settings) {} args

end SipPlugin
end NetmonPlugins

import NetmonPlugins.Common.Plugin
import NetmonPlugins.Common.Settings
import NetmonPlugins.Common.Socket

/-!
This module contains `check_http`.
-/

namespace NetmonPlugins
namespace HttpPlugin

structure Config where
  hostname : Bytes := []
  port : Int := 80
  uri : Bytes := str "/"
  useSSL : Bool := false
  timeoutSeconds : Int := 10
  expectString : Bytes := []

def httpRequest (host : Bytes) (portNum : Int) (path : Bytes) : Bytes :=
  str "GET " ++ path ++ str " HTTP/1.1" ++ crlf
    ++ str "Host: " ++ host
    ++ (if portNum ≠ 80 ∧ portNum ≠ 443 then str ":" ++ intDec portNum else []) ++ crlf
    ++ str "Connection: close" ++ crlf
    ++ str "User-Agent: NetMon-Plugins/1.0" ++ crlf
    ++ crlf

abbrev Server := Bool → Bytes → Connection 4095

def readResponse (expectString : Bytes) : Connection 4095 → Bool
  | .failed => false
  | .stream [] => false
  | .stream (chunk :: _) =>
    let response := cstr chunk.data
    if contains response (str "HTTP/1") && contains response (str "200") then
      expectString = [] || contains response expectString
    else
      false

def checkHttps (server : Server) (host : Bytes) (portNum : Int) (path expectString : Bytes)
    : Bool :=
  readResponse expectString (server true (httpRequest host portNum path))

def checkHttp (sslEnabled : Bool) (server : Server) (host : Bytes) (portNum : Int)
    (path : Bytes) (ssl : Bool) (expectString : Bytes) : Bool :=
  if sslEnabled && ssl then
    checkHttps server host portNum path expectString
  else
    readResponse expectString (server false (httpRequest host portNum path))

def check (sslEnabled : Bool) (server : Server) (config : Config) : PluginResult :=
  if config.hostname = [] then
    { code := .unknown, message := str "Hostname must be specified" }
  else
    -- A build without OpenSSL falls back to HTTP.
    let fallback := config.useSSL && !sslEnabled
    let useSSL := if fallback then false else config.useSSL
    let port := if fallback && config.port = 443 then 80 else config.port
    let protocol := if useSSL then str "HTTPS" else str "HTTP"
    if checkHttp sslEnabled server config.hostname port config.uri useSSL config.expectString then
      { code := .ok
        message := protocol ++ str " OK - " ++ config.hostname ++ str ":" ++ intDec port
          ++ config.uri ++ str " returned HTTP 200" }
    else
      { code := .critical
        message := protocol ++ str " CRITICAL - " ++ config.hostname ++ str ":" ++ intDec port
          ++ config.uri ++ str " did not return HTTP 200" }

open CommandLine

def settings : List (Setting Config) :=
  [.text ["-H", "--hostname"] (·.hostname) fun text config => { config with hostname := text },
    .int ["-p", "--port"] (·.port) fun number config => { config with port := number },
    .text ["-u", "--uri"] (·.uri) fun text config => { config with uri := text },
    .flag ["-S", "--ssl"] (·.useSSL) (fun flag config => { config with useSSL := flag }) true,
    .text ["-s", "--string"] (·.expectString)
      fun text config => { config with expectString := text },
    .int ["-t", "--timeout"] (·.timeoutSeconds)
      fun number config => { config with timeoutSeconds := number }]

def parseArguments (args : List Bytes) : Except Stop Config := scan (branchOf settings) {} args

end HttpPlugin
end NetmonPlugins

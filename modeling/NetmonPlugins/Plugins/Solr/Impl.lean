import NetmonPlugins.Common.HttpApi.Impl
import NetmonPlugins.Common.JsonUtils.Impl
import NetmonPlugins.Common.Occurrences
import NetmonPlugins.Common.Plugin
import NetmonPlugins.Common.Settings

/-!
This module contains `check_solr`.
-/

namespace NetmonPlugins
namespace SolrPlugin

structure Config where
  hostname : Bytes := []
  port : Int := 8983
  timeoutSeconds : Int := 10
  collection : Bytes := []
  checkType : Bytes := str "admin"

def apiPath (config : Config) : Bytes :=
  if config.checkType = str "admin" then
    str "/solr/admin/ping"
  else if config.checkType = str "ping" then
    if config.collection ≠ [] then
      str "/solr/" ++ config.collection ++ str "/admin/ping"
    else
      str "/solr/admin/ping"
  else if config.checkType = str "cores" then
    str "/solr/admin/cores?action=STATUS"
  else
    str "/solr/admin/ping"

def checkPing (response : Bytes) : PluginResult :=
  let status := extractJsonValue response (str "status")
  if status = str "OK" ∨ contains response (str "\"status\":\"OK\"") = true then
    { code := .ok, message := str "Solr OK - Ping successful" }
  else
    { code := .critical
      message := str "Solr CRITICAL - Ping failed (status: " ++ status ++ str ")" }

def checkCores (response : Bytes) : PluginResult :=
  let coreCount := countOccurrences response (str "\"name\"") nameKey_ne_nil 0
  { code := .ok
    message := str "Solr OK - " ++ natDec coreCount ++ str " cores"
    perfdata := str "cores=" ++ natDec coreCount }

def judge (checkType : Bytes) (statusCode : Int) (response : Bytes) : PluginResult :=
  if statusCode ≠ 200 ∨ response = [] then
    { code := .critical
      message := str "Solr CRITICAL - Cannot connect to API or invalid response (status: "
        ++ intDec statusCode ++ str ")" }
  else if checkType = str "ping" ∨ checkType = str "admin" then
    checkPing response
  else if checkType = str "cores" then
    checkCores response
  else
    { code := .ok, message := str "Solr OK - API responding" }

def check (sslEnabled : Bool) (server : Server) (config : Config) : PluginResult :=
  if config.hostname = [] then
    { code := .unknown, message := str "Hostname must be specified" }
  else
    match httpGet sslEnabled server config.hostname config.port (apiPath config) false
      config.timeoutSeconds with
    | .error e => { code := .unknown, message := str "Solr check failed: " ++ e.what }
    | .ok (statusCode, response) => judge config.checkType statusCode response

open CommandLine

def settings : List (Setting Config) :=
  [.text ["-H", "--hostname"] (·.hostname) fun text config => { config with hostname := text },
    .int ["-p", "--port"] (·.port) fun number config => { config with port := number },
    .text ["-c", "--collection"] (·.collection)
      fun text config => { config with collection := text },
    .text ["-C", "--check"] (·.checkType) fun text config => { config with checkType := text },
    .int ["-t", "--timeout"] (·.timeoutSeconds)
      fun number config => { config with timeoutSeconds := number }]

def parseArguments (args : List Bytes) : Except Stop Config := scan (branchOf settings) {} args

end SolrPlugin
end NetmonPlugins

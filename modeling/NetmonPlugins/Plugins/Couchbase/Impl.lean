import NetmonPlugins.Common.HttpApi.Impl
import NetmonPlugins.Common.JsonUtils.Impl
import NetmonPlugins.Common.Occurrences
import NetmonPlugins.Common.Plugin
import NetmonPlugins.Common.Settings

/-!
This module contains the check of `check_couchbase`.
-/

namespace NetmonPlugins
namespace CouchbasePlugin

structure Config where
  hostname : Bytes := []
  port : Int := 8091
  timeoutSeconds : Int := 10
  username : Bytes := []
  password : Bytes := []
  checkType : Bytes := str "health"

def apiPath (checkType : Bytes) : Bytes :=
  if checkType = str "health" then str "/pools/default"
  else if checkType = str "pools" then str "/pools"
  else if checkType = str "nodes" then str "/pools/default/nodes"
  else str "/pools/default"

def checkHealth (response : Bytes) : PluginResult :=
  let clusterName := extractJsonValue response (str "clusterName")
  let balanced := extractJsonValue response (str "balanced")
  let rebalanceStatus := extractJsonNestedValue response (str "rebalanceStatus")
  let nodeCount := (extractJsonNumber response (str "nodesCount")).toInt
  let nodes := if nodeCount ≥ 0 then str " (" ++ intDec nodeCount ++ str " nodes)" else []
  if rebalanceStatus = str "running" then
    { code := .warning, message := str "Couchbase WARNING - Rebalance in progress" }
  else
    { code := .ok
      message := str "Couchbase OK - Cluster \"" ++ clusterName ++ str "\"" ++ nodes
      perfdata := str "nodes=" ++ intDec nodeCount
        ++ if balanced ≠ [] then str " balanced=" ++ balanced else [] }

def checkNodes (response : Bytes) : PluginResult :=
  let nodeCount := countOccurrences response (str "\"hostname\"") (by decide) 0
  { code := .ok
    message := str "Couchbase OK - " ++ natDec nodeCount ++ str " nodes available"
    perfdata := str "nodes=" ++ natDec nodeCount }

def check (sslEnabled : Bool) (server : Server) (config : Config) : PluginResult :=
  if config.hostname = [] then
    { code := .unknown, message := str "Hostname must be specified" }
  else
    match httpGetAuth sslEnabled server config.hostname config.port (apiPath config.checkType) false
      config.timeoutSeconds config.username config.password with
    | .error e => { code := .unknown, message := str "Couchbase check failed: " ++ e.what }
    | .ok (statusCode, response) =>
      if statusCode ≠ 200 ∨ response = [] then
        { code := .critical
          message :=
            str "Couchbase CRITICAL - Cannot connect to Management API or invalid response" }
      else if config.checkType = str "health" then
        checkHealth response
      else if config.checkType = str "nodes" then
        checkNodes response
      else
        { code := .ok
          message := str "Couchbase OK - Management API responding (status: " ++ intDec statusCode
            ++ str ")" }

open CommandLine

def settings : List (Setting Config) :=
  [.text ["-H", "--hostname"] (·.hostname) fun text config => { config with hostname := text },
    .int ["-p", "--port"] (·.port) fun number config => { config with port := number },
    .text ["-u", "--username"] (·.username) fun text config => { config with username := text },
    .text ["-P", "--password"] (·.password) fun text config => { config with password := text },
    .text ["-c", "--check"] (·.checkType) fun text config => { config with checkType := text },
    .int ["-t", "--timeout"] (·.timeoutSeconds)
      fun number config => { config with timeoutSeconds := number }]

def parseArguments (args : List Bytes) : Except Stop Config := scan (branchOf settings) {} args

end CouchbasePlugin
end NetmonPlugins

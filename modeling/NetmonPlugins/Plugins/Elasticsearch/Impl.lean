import NetmonPlugins.Common.CommandLine
import NetmonPlugins.Common.HttpApi.Impl
import NetmonPlugins.Common.JsonUtils.Impl
import NetmonPlugins.Common.Plugin

/-!
This module contains `check_elasticsearch`. The option `-S` is documented and has no branch.
-/

namespace NetmonPlugins
namespace ElasticsearchPlugin

open CommandLine

structure Config where
  hostname : Bytes := []
  port : Int := 9200
  timeoutSeconds : Int := 10
  username : Bytes := []
  password : Bytes := []
  -- Stored by the argument parser and never read.
  checkType : Bytes := str "health"

-- No option changes it.
def checkClusterHealth : Bool := true

def path : Bytes := str "/_cluster/health"

def judge (response : Bytes) : PluginResult :=
  let status := extractJsonValue response (str "status")
  let clusterName := extractJsonValue response (str "cluster_name")
  let numberOfNodes := (extractJsonNumber response (str "number_of_nodes")).toInt
  let numberOfDataNodes := (extractJsonNumber response (str "number_of_data_nodes")).toInt
  let perfdata := str "nodes=" ++ intDec numberOfNodes
    ++ str " data_nodes=" ++ intDec numberOfDataNodes
  if status = str "red" then
    { code := .critical
      message := str "Elasticsearch CRITICAL - Cluster \"" ++ clusterName ++ str "\" status: RED"
      perfdata := perfdata }
  else if status = str "yellow" then
    { code := .warning
      message := str "Elasticsearch WARNING - Cluster \"" ++ clusterName
        ++ str "\" status: YELLOW"
      perfdata := perfdata }
  else
    { code := .ok
      message := str "Elasticsearch OK - Cluster \"" ++ clusterName ++ str "\" status: " ++ status
        ++ str " (" ++ intDec numberOfNodes ++ str " nodes, " ++ intDec numberOfDataNodes
        ++ str " data nodes)"
      perfdata := perfdata }

def checkCluster (sslEnabled : Bool) (server : Server) (config : Config)
    : Except StdException PluginResult :=
  match httpGetAuth sslEnabled server config.hostname config.port path false config.timeoutSeconds
    config.username config.password with
  | .error e => .error e
  | .ok (statusCode, response) =>
    if statusCode ≠ 200 ∨ response = [] then
      .ok
        { code := .critical
          message :=
            str "Elasticsearch CRITICAL - Cannot connect to cluster or invalid response" }
    else
      .ok (judge response)

def check (sslEnabled : Bool) (server : Server) (config : Config) : PluginResult :=
  if config.hostname = [] then
    { code := .unknown, message := str "Hostname must be specified" }
  else if checkClusterHealth then
    match checkCluster sslEnabled server config with
    | .ok result => result
    | .error e => { code := .unknown, message := str "Elasticsearch check failed: " ++ e.what }
  else
    { code := .unknown, message := str "No check type specified" }

def branch (arg : Bytes) : Branch Config :=
  if arg = str "-h" ∨ arg = str "--help" then
    .help
  else if arg = str "-H" ∨ arg = str "--hostname" then
    .value fun value => .ok fun config => { config with hostname := value }
  else if arg = str "-p" ∨ arg = str "--port" then
    .value fun value => converted (stoi value) fun port config => { config with port := port }
  else if arg = str "-t" ∨ arg = str "--timeout" then
    .value fun value =>
      converted (stoi value) fun seconds config => { config with timeoutSeconds := seconds }
  else if arg = str "-u" ∨ arg = str "--username" then
    .value fun value => .ok fun config => { config with username := value }
  else if arg = str "-P" ∨ arg = str "--password" then
    .value fun value => .ok fun config => { config with password := value }
  else if arg = str "-c" ∨ arg = str "--check" then
    .value fun value => .ok fun config => { config with checkType := value }
  else
    .set id

def parseArguments (args : List Bytes) : Except Stop Config := scan branch {} args

end ElasticsearchPlugin
end NetmonPlugins

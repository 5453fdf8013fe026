import NetmonPlugins.Common.HttpApi.Impl
import NetmonPlugins.Common.JsonUtils.Impl
import NetmonPlugins.Common.Occurrences
import NetmonPlugins.Common.Plugin
import NetmonPlugins.Common.Settings

/-!
This module contains the check of `check_etcd`.
-/

namespace NetmonPlugins
namespace EtcdPlugin

structure Config where
  hostname : Bytes := []
  port : Int := 2379
  timeoutSeconds : Int := 10
  checkType : Bytes := str "health"

def apiPath (checkType : Bytes) : Bytes :=
  if checkType = str "health" then str "/health"
  else if checkType = str "version" then str "/version"
  else if checkType = str "members" then str "/v2/members"
  else str "/health"

def checkHealth (statusCode : Int) (response : Bytes) : PluginResult :=
  if statusCode = 200 then
    let health := extractJsonValue response (str "health")
    if health = str "true" ∨ contains response (str "\"health\":true") = true then
      { code := .ok, message := str "etcd OK - Cluster is healthy" }
    else
      { code := .critical, message := str "etcd CRITICAL - Cluster is unhealthy" }
  else
    { code := .critical
      message := str "etcd CRITICAL - Health check failed (status: " ++ intDec statusCode
        ++ str ")" }

def checkVersion (statusCode : Int) (response : Bytes) : PluginResult :=
  if statusCode = 200 then
    let etcdserver := extractJsonValue response (str "etcdserver")
    let version :=
      if etcdserver = [] then extractJsonValue response (str "etcdcluster") else etcdserver
    { code := .ok, message := str "etcd OK - Version: " ++ version }
  else
    { code := .critical
      message := str "etcd CRITICAL - Cannot get version (status: " ++ intDec statusCode
        ++ str ")" }

def checkMembers (statusCode : Int) (response : Bytes) : PluginResult :=
  if statusCode = 200 then
    let memberCount := countOccurrences response (str "\"id\"") (by decide) 0
    { code := .ok
      message := str "etcd OK - " ++ natDec memberCount ++ str " cluster members"
      perfdata := str "members=" ++ natDec memberCount }
  else
    { code := .critical
      message := str "etcd CRITICAL - Cannot get members (status: " ++ intDec statusCode
        ++ str ")" }

def check (sslEnabled : Bool) (server : Server) (config : Config) : PluginResult :=
  if config.hostname = [] then
    { code := .unknown, message := str "Hostname must be specified" }
  else
    match httpGet sslEnabled server config.hostname config.port (apiPath config.checkType) false
      config.timeoutSeconds with
    | .error e => { code := .unknown, message := str "etcd check failed: " ++ e.what }
    | .ok (statusCode, response) =>
      if statusCode = 0 ∨ response = [] then
        { code := .critical, message := str "etcd CRITICAL - Cannot connect to API server" }
      else if config.checkType = str "health" then
        checkHealth statusCode response
      else if config.checkType = str "version" then
        checkVersion statusCode response
      else if config.checkType = str "members" then
        checkMembers statusCode response
      else
        { code := .ok, message := str "etcd OK - API responding" }

open CommandLine

def settings : List (Setting Config) :=
  [.text ["-H", "--hostname"] (·.hostname) fun text config => { config with hostname := text },
    .int ["-p", "--port"] (·.port) fun number config => { config with port := number },
    .text ["-c", "--check"] (·.checkType) fun text config => { config with checkType := text },
    .int ["-T", "--timeout"] (·.timeoutSeconds)
      fun number config => { config with timeoutSeconds := number }]

def parseArguments (args : List Bytes) : Except Stop Config := scan (branchOf settings) {} args

end EtcdPlugin
end NetmonPlugins

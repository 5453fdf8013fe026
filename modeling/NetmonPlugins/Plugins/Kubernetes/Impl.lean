import NetmonPlugins.Common.HttpApi.Impl
import NetmonPlugins.Common.JsonUtils.Impl
import NetmonPlugins.Common.Plugin
import NetmonPlugins.Common.Settings

/-!
This module contains `check_kubernetes`. The token is stored by the argument parser and never sent.
-/

namespace NetmonPlugins
namespace KubernetesPlugin

structure Config where
  hostname : Bytes := []
  port : Int := 6443
  timeoutSeconds : Int := 10
  useSSL : Bool := true
  checkType : Bytes := str "health"

/-- A build without OpenSSL falls back to HTTP, and from the default port to that of the kubelet. -/
def Config.withAvailableSsl (sslEnabled : Bool) (config : Config) : Config :=
  if config.useSSL && !sslEnabled then
    { config with useSSL := false, port := if config.port = 6443 then 8080 else config.port }
  else
    config

def apiPath (checkType : Bytes) : Bytes :=
  if checkType = str "health" then str "/healthz"
  else if checkType = str "nodes" then str "/api/v1/nodes"
  else if checkType = str "pods" then str "/api/v1/pods"
  else str "/healthz"

def checkHealth (statusCode : Int) (response : Bytes) : PluginResult :=
  if statusCode = 200 ∧ (response = str "ok" ∨ contains response (str "ok") = true) then
    { code := .ok, message := str "Kubernetes OK - Health check passed" }
  else
    { code := .critical, message := str "Kubernetes CRITICAL - Health check failed" }

/-- The loop over the text behind the bracket, from the position on. -/
def countItems (braceCount : Int) (itemCount : Nat) : Bytes → Nat
  | [] => itemCount
  | c :: text =>
    let braceCount' :=
      if c = 123 then braceCount + 1 else if c = 125 then braceCount - 1 else braceCount
    let itemCount' := if c = 125 ∧ braceCount' = 0 then itemCount + 1 else itemCount
    -- The position has advanced before the byte at it is compared.
    if text.head? = some 93 ∧ braceCount' = 0 then
      itemCount'
    else
      countItems braceCount' itemCount' text

def itemsIn (response : Bytes) : Nat :=
  match find response (str "\"items\"") 0 with
  | none => 0
  | some itemsPos =>
    match find response (str "[") itemsPos with
    | none => 0
    | some arrayStart => countItems 0 0 (response.drop (arrayStart + 1))

def checkItems (checkType : Bytes) (statusCode : Int) (response : Bytes) : PluginResult :=
  if statusCode = 200 then
    let kind := extractJsonValue response (str "kind")
    let itemCount := itemsIn response
    { code := .ok
      message := str "Kubernetes OK - " ++ kind ++ str " API responding"
        ++ (if itemCount > 0 then str " (" ++ natDec itemCount ++ str " " ++ checkType ++ str ")"
          else [])
      perfdata := checkType ++ str "=" ++ natDec itemCount }
  else if statusCode = 401 ∨ statusCode = 403 then
    { code := .critical
      message := str "Kubernetes CRITICAL - Authentication failed (status " ++ intDec statusCode
        ++ str ")" }
  else
    { code := .critical
      message := str "Kubernetes CRITICAL - API returned status " ++ intDec statusCode }

def check (sslEnabled : Bool) (server : Server) (config : Config) : PluginResult :=
  if config.hostname = [] then
    { code := .unknown, message := str "Hostname must be specified" }
  else
    let config := config.withAvailableSsl sslEnabled
    match httpGet sslEnabled server config.hostname config.port (apiPath config.checkType)
      config.useSSL config.timeoutSeconds with
    | .error e => { code := .unknown, message := str "Kubernetes check failed: " ++ e.what }
    | .ok (statusCode, response) =>
      if statusCode = 0 ∨ response = [] then
        { code := .critical
          message := str "Kubernetes CRITICAL - Cannot connect to API server or invalid response" }
      else if config.checkType = str "health" then
        checkHealth statusCode response
      else if config.checkType = str "nodes" ∨ config.checkType = str "pods" then
        checkItems config.checkType statusCode response
      else
        { code := .ok, message := str "Kubernetes OK - API server is responding" }

open CommandLine

def settings : List (Setting Config) :=
  [.text ["-H", "--hostname"] (·.hostname) fun text config => { config with hostname := text },
    .int ["-p", "--port"] (·.port) fun number config => { config with port := number },
    .unreadText ["-t", "--token"],
    .text ["-c", "--check"] (·.checkType) fun text config => { config with checkType := text },
    .int ["-T", "--timeout"] (·.timeoutSeconds)
      fun number config => { config with timeoutSeconds := number },
    { Part := Bool
      get := (·.useSSL)
      put := fun flag config => { config with useSSL := flag }
      get_put := fun _ _ => rfl
      put_get := fun _ => rfl
      options := [([str "-S", str "--ssl"], .set fun _ => true),
        ([str "--no-ssl"], .set fun _ => false)] }]

def parseArguments (args : List Bytes) : Except Stop Config := scan (branchOf settings) {} args

end KubernetesPlugin
end NetmonPlugins

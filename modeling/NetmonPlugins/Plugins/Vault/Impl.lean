import NetmonPlugins.Common.HttpApi.Impl
import NetmonPlugins.Common.JsonUtils.Impl
import NetmonPlugins.Common.Plugin
import NetmonPlugins.Common.Settings

/-!
This module contains `check_vault`. The token is stored by the argument parser and never sent.
-/

namespace NetmonPlugins
namespace VaultPlugin

structure Config where
  hostname : Bytes := []
  port : Int := 8200
  timeoutSeconds : Int := 10
  checkType : Bytes := str "health"

def apiPath (checkType : Bytes) : Bytes :=
  if checkType = str "health" then str "/v1/sys/health"
  else if checkType = str "seal" then str "/v1/sys/seal-status"
  else if checkType = str "status" then str "/v1/sys/health"
  else str "/v1/sys/health"

def checkHealth (statusCode : Int) (response : Bytes) : PluginResult :=
  if statusCode = 200 then
    let sealed := extractJsonValue response (str "sealed")
    let initialized := extractJsonValue response (str "initialized")
    if sealed = str "true" then
      { code := .critical, message := str "Vault CRITICAL - Vault is sealed" }
    else if initialized = str "false" then
      { code := .warning, message := str "Vault WARNING - Vault is not initialized" }
    else
      { code := .ok, message := str "Vault OK - Vault is healthy, initialized, and unsealed" }
  else if statusCode = 429 ∨ statusCode = 472 ∨ statusCode = 473 then
    { code := .ok
      message := str "Vault OK - Vault is in standby/DR mode (status: " ++ intDec statusCode
        ++ str ")" }
  else if statusCode = 503 then
    { code := .critical, message := str "Vault CRITICAL - Vault is sealed" }
  else
    { code := .critical
      message := str "Vault CRITICAL - Unexpected status code: " ++ intDec statusCode }

def checkSeal (statusCode : Int) (response : Bytes) : PluginResult :=
  if statusCode = 200 then
    let sealed := extractJsonValue response (str "sealed")
    if sealed = str "true" then
      { code := .critical, message := str "Vault CRITICAL - Vault is sealed" }
    else
      { code := .ok, message := str "Vault OK - Vault is unsealed" }
  else
    { code := .critical
      message := str "Vault CRITICAL - Cannot check seal status (status: " ++ intDec statusCode
        ++ str ")" }

def checkStatus (statusCode : Int) : PluginResult :=
  if statusCode = 200 then
    { code := .ok, message := str "Vault OK - API is responding" }
  else
    { code := .critical
      message := str "Vault CRITICAL - API returned status " ++ intDec statusCode }

def check (sslEnabled : Bool) (server : Server) (config : Config) : PluginResult :=
  if config.hostname = [] then
    { code := .unknown, message := str "Hostname must be specified" }
  else
    match httpGet sslEnabled server config.hostname config.port (apiPath config.checkType) false
      config.timeoutSeconds with
    | .error e => { code := .unknown, message := str "Vault check failed: " ++ e.what }
    | .ok (statusCode, response) =>
      if statusCode = 0 ∨ response = [] then
        { code := .critical, message := str "Vault CRITICAL - Cannot connect to API server" }
      else if config.checkType = str "health" then
        checkHealth statusCode response
      else if config.checkType = str "seal" then
        checkSeal statusCode response
      else
        checkStatus statusCode

open CommandLine

def settings : List (Setting Config) :=
  [.text ["-H", "--hostname"] (·.hostname) fun text config => { config with hostname := text },
    .int ["-p", "--port"] (·.port) fun number config => { config with port := number },
    .unreadText ["-t", "--token"],
    .text ["-c", "--check"] (·.checkType) fun text config => { config with checkType := text },
    .int ["-T", "--timeout"] (·.timeoutSeconds)
      fun number config => { config with timeoutSeconds := number }]

def parseArguments (args : List Bytes) : Except Stop Config := scan (branchOf settings) {} args

end VaultPlugin
end NetmonPlugins

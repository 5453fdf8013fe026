import NetmonPlugins.Common.HttpApi.Impl
import NetmonPlugins.Common.JsonUtils.Impl
import NetmonPlugins.Common.Plugin
import NetmonPlugins.Common.Settings

/-!
This module contains the check of `check_rabbitmq`.
-/

namespace NetmonPlugins
namespace RabbitmqPlugin

structure Config where
  hostname : Bytes := []
  port : Int := 15672
  timeoutSeconds : Int := 10
  username : Bytes := str "guest"
  password : Bytes := str "guest"
  queueName : Bytes := []

def apiPath (queueName : Bytes) : Bytes :=
  if queueName ≠ [] then str "/api/queues/%2F/" ++ queueName else str "/api/overview"

def checkQueue (queueName response : Bytes) : PluginResult :=
  let messages := (extractJsonNumber response (str "messages")).toInt
  let consumers := (extractJsonNumber response (str "consumers")).toInt
  { code := .ok
    message := str "RabbitMQ OK - Queue \"" ++ queueName ++ str "\": " ++ intDec messages
      ++ str " messages, " ++ intDec consumers ++ str " consumers"
    perfdata := str "messages=" ++ intDec messages ++ str " consumers=" ++ intDec consumers }

def checkOverview (response : Bytes) : PluginResult :=
  let objectTotals := extractJsonNestedValue response (str "object_totals")
  let queues := (extractJsonNumber objectTotals (str "queues")).toInt
  let exchanges := (extractJsonNumber objectTotals (str "exchanges")).toInt
  let connections := (extractJsonNumber objectTotals (str "connections")).toInt
  let channels := (extractJsonNumber objectTotals (str "channels")).toInt
  { code := .ok
    message := str "RabbitMQ OK - " ++ intDec queues ++ str " queues, " ++ intDec exchanges
      ++ str " exchanges, " ++ intDec connections ++ str " connections"
    perfdata := str "queues=" ++ intDec queues ++ str " exchanges=" ++ intDec exchanges
      ++ str " connections=" ++ intDec connections ++ str " channels=" ++ intDec channels }

def check (sslEnabled : Bool) (server : Server) (config : Config) : PluginResult :=
  if config.hostname = [] then
    { code := .unknown, message := str "Hostname must be specified" }
  else
    match httpGetAuth sslEnabled server config.hostname config.port (apiPath config.queueName) false
      config.timeoutSeconds config.username config.password with
    | .error e => { code := .unknown, message := str "RabbitMQ check failed: " ++ e.what }
    | .ok (statusCode, response) =>
      if statusCode ≠ 200 ∨ response = [] then
        { code := .critical
          message :=
            str "RabbitMQ CRITICAL - Cannot connect to management API or invalid response" }
      else if config.queueName ≠ [] then
        checkQueue config.queueName response
      else
        checkOverview response

open CommandLine

def settings : List (Setting Config) :=
  [.text ["-H", "--hostname"] (·.hostname) fun text config => { config with hostname := text },
    .int ["-p", "--port"] (·.port) fun number config => { config with port := number },
    .text ["-u", "--username"] (·.username) fun text config => { config with username := text },
    .text ["-P", "--password"] (·.password) fun text config => { config with password := text },
    .text ["-q", "--queue"] (·.queueName) fun text config => { config with queueName := text },
    .int ["-t", "--timeout"] (·.timeoutSeconds)
      fun number config => { config with timeoutSeconds := number }]

def parseArguments (args : List Bytes) : Except Stop Config := scan (branchOf settings) {} args

end RabbitmqPlugin
end NetmonPlugins

import NetmonPlugins.Common.HttpApi.Impl
import NetmonPlugins.Common.Occurrences
import NetmonPlugins.Common.Plugin
import NetmonPlugins.Common.Settings

/-!
This module contains `check_kafka`, `check_cassandra`, `check_mongodb` and `check_rpc`, as they are
built on Linux. None of them speaks the protocol of its server: they connect to its port and leave
it at that, by code they share by copy, or ask an HTTP interface beside it.
-/

namespace NetmonPlugins

/-- How far an attempt to connect to a port gets. -/
inductive Attempt where
  | unresolved
  | noSocket
  | refused
  | connected

/-- `connectivity name port accepting` is what the attempt to reach `host` at the port says. -/
def connectivity (name host : Bytes) (port : Int) (accepting : Bytes) (attempt : Attempt)
    : PluginResult :=
  match attempt with
  | .unresolved => { code := .critical, message := name ++ str " CRITICAL - Cannot resolve hostname" }
  | .noSocket => { code := .critical, message := name ++ str " CRITICAL - Cannot create socket" }
  | .refused =>
    { code := .critical
      message := name ++ str " CRITICAL - Cannot connect to " ++ host ++ str ":" ++ intDec port }
  | .connected =>
    { code := .ok
      message := name ++ str " OK - " ++ accepting ++ str " " ++ intDec port
        ++ str " is accepting connections" }

/-- The server as these checks meet it: its port, and the HTTP interface. -/
structure Broker where
  attempt : Attempt
  http : Server

namespace KafkaPlugin

structure Config where
  hostname : Bytes := []
  port : Int := 9092
  httpPort : Int := 8080
  timeoutSeconds : Int := 10
  checkType : Bytes := str "connectivity"

def apiPath (checkType : Bytes) : Bytes :=
  if checkType = str "brokers" then str "/brokers" else str "/topics"

def checkTopics (response : Bytes) : PluginResult :=
  let topicCount := countOccurrences response (str "\"name\"") nameKey_ne_nil 0
  { code := .ok
    message := str "Kafka OK - " ++ natDec topicCount ++ str " topics"
    perfdata := str "topics=" ++ natDec topicCount }

def judge (checkType : Bytes) (statusCode : Int) (response : Bytes) : PluginResult :=
  if statusCode = 200 then
    if checkType = str "topics" then
      checkTopics response
    else
      { code := .ok, message := str "Kafka OK - HTTP API responding" }
  else
    { code := .critical
      message := str "Kafka CRITICAL - HTTP API not available (status: " ++ intDec statusCode
        ++ str "). Try connectivity check instead." }

def check (sslEnabled : Bool) (broker : Broker) (config : Config) : PluginResult :=
  if config.hostname = [] then
    { code := .unknown, message := str "Hostname must be specified" }
  else if config.checkType = str "connectivity" then
    connectivity (str "Kafka") config.hostname config.port (str "Broker port") broker.attempt
  else
    match httpGet sslEnabled broker.http config.hostname config.httpPort (apiPath config.checkType)
      false config.timeoutSeconds with
    | .error e => { code := .unknown, message := str "Kafka check failed: " ++ e.what }
    | .ok (statusCode, response) => judge config.checkType statusCode response

open CommandLine

def settings : List (Setting Config) :=
  [.text ["-H", "--hostname"] (·.hostname) fun text config => { config with hostname := text },
    .int ["-p", "--port"] (·.port) fun number config => { config with port := number },
    .int ["-P", "--http-port"] (·.httpPort)
      fun number config => { config with httpPort := number },
    .text ["-c", "--check"] (·.checkType) fun text config => { config with checkType := text },
    .int ["-T", "--timeout"] (·.timeoutSeconds)
      fun number config => { config with timeoutSeconds := number }]

def parseArguments (args : List Bytes) : Except Stop Config := scan (branchOf settings) {} args

end KafkaPlugin

namespace CassandraPlugin

structure Config where
  hostname : Bytes := []
  port : Int := 9042
  jmxPort : Int := 7199
  timeoutSeconds : Int := 10
  checkType : Bytes := str "connectivity"

def path : Bytes := str "/jolokia/read/java.lang:type=Runtime"

def judge (statusCode : Int) : PluginResult :=
  if statusCode = 200 then
    { code := .ok, message := str "Cassandra OK - JMX/Jolokia API responding" }
  else
    { code := .critical
      message := str "Cassandra CRITICAL - JMX API not available (status: " ++ intDec statusCode
        ++ str "). Try connectivity check instead." }

def check (sslEnabled : Bool) (broker : Broker) (config : Config) : PluginResult :=
  if config.hostname = [] then
    { code := .unknown, message := str "Hostname must be specified" }
  else if config.checkType = str "connectivity" then
    connectivity (str "Cassandra") config.hostname config.port (str "Native protocol port")
      broker.attempt
  else
    match httpGet sslEnabled broker.http config.hostname config.jmxPort path false
      config.timeoutSeconds with
    | .error e => { code := .unknown, message := str "Cassandra check failed: " ++ e.what }
    | .ok (statusCode, _) => judge statusCode

open CommandLine

def settings : List (Setting Config) :=
  [.text ["-H", "--hostname"] (·.hostname) fun text config => { config with hostname := text },
    .int ["-p", "--port"] (·.port) fun number config => { config with port := number },
    .int ["-j", "--jmx-port"] (·.jmxPort) fun number config => { config with jmxPort := number },
    .text ["-c", "--check"] (·.checkType) fun text config => { config with checkType := text },
    .int ["-T", "--timeout"] (·.timeoutSeconds)
      fun number config => { config with timeoutSeconds := number }]

def parseArguments (args : List Bytes) : Except Stop Config := scan (branchOf settings) {} args

end CassandraPlugin

namespace MongodbPlugin

structure Config where
  hostname : Bytes := []
  port : Int := 27017
  httpPort : Int := 28017
  timeoutSeconds : Int := 10
  useHttpInterface : Bool := true

def judge (config : Config) (statusCode : Int) (response : Bytes) : PluginResult :=
  let interface := config.hostname ++ str ":" ++ intDec config.httpPort
  if statusCode ≠ 200 ∨ response = [] then
    { code := .critical
      message := str "MongoDB CRITICAL - Cannot connect to HTTP interface on " ++ interface
        ++ str " (HTTP interface may not be enabled)" }
  else if contains response (str "MongoDB") || contains response (str "mongodb") then
    { code := .ok, message := str "MongoDB OK - HTTP interface responding on " ++ interface }
  else
    { code := .warning
      message := str "MongoDB WARNING - HTTP interface responding but content unexpected" }

def check (sslEnabled : Bool) (broker : Broker) (config : Config) : PluginResult :=
  if config.hostname = [] then
    { code := .unknown, message := str "Hostname must be specified" }
  else if config.useHttpInterface then
    match httpGet sslEnabled broker.http config.hostname config.httpPort (str "/") false
      config.timeoutSeconds with
    | .error e => { code := .unknown, message := str "MongoDB check failed: " ++ e.what }
    | .ok (statusCode, response) => judge config statusCode response
  else
    connectivity (str "MongoDB") config.hostname config.port (str "Port") broker.attempt

open CommandLine

def settings : List (Setting Config) :=
  [.text ["-H", "--hostname"] (·.hostname) fun text config => { config with hostname := text },
    .int ["-p", "--port"] (·.port) fun number config => { config with port := number },
    .int ["-P", "--http-port"] (·.httpPort)
      fun number config => { config with httpPort := number },
    .int ["-t", "--timeout"] (·.timeoutSeconds)
      fun number config => { config with timeoutSeconds := number },
    .flag ["-T", "--tcp"] (·.useHttpInterface)
      (fun flag config => { config with useHttpInterface := flag }) false]

def parseArguments (args : List Bytes) : Except Stop Config := scan (branchOf settings) {} args

end MongodbPlugin

namespace RpcPlugin

structure Config where
  hostname : Bytes := []
  programNumber : Int := -1
  versionNumber : Int := -1

/-- The portmapper is connected to on port 111, and not asked about the program. -/
def checkRpcPortmapper (attempt : Attempt) (_progNum _versNum : Int) : Bool :=
  match attempt with
  | .connected => true
  | .unresolved | .noSocket | .refused => false

def service (config : Config) (available accessible : Bytes) : Bytes :=
  if config.programNumber ≥ 0 then
    config.hostname ++ str " RPC program " ++ intDec config.programNumber
      ++ (if config.versionNumber ≥ 0 then
            str " version " ++ intDec config.versionNumber
          else
            [])
      ++ available
  else
    config.hostname ++ accessible

def check (attempt : Attempt) (config : Config) : PluginResult :=
  if config.hostname = [] then
    { code := .unknown, message := str "Hostname must be specified" }
  else
    let progToCheck := if config.programNumber ≥ 0 then config.programNumber else 0
    let versToCheck := if config.versionNumber ≥ 0 then config.versionNumber else 0
    if checkRpcPortmapper attempt progToCheck versToCheck then
      { code := .ok
        message := str "RPC OK - " ++ service config (str " is available")
          (str " portmapper (port 111) is accessible") }
    else
      { code := .critical
        message := str "RPC CRITICAL - " ++ service config (str " is not available")
          (str " portmapper (port 111) is not accessible") }

open CommandLine

def settings : List (Setting Config) :=
  [.text ["-H", "--hostname"] (·.hostname) fun text config => { config with hostname := text },
    .int ["-p", "--program"] (·.programNumber)
      fun number config => { config with programNumber := number },
    .int ["-v", "--version"] (·.versionNumber)
      fun number config => { config with versionNumber := number },
    .unread stoi ["-t", "--timeout"]]

def parseArguments (args : List Bytes) : Except Stop Config := scan (branchOf settings) {} args

end RpcPlugin
end NetmonPlugins

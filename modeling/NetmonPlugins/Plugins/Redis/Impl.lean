import NetmonPlugins.Common.LineProtocol
import NetmonPlugins.Common.Settings
import NetmonPlugins.Cxx.Numeric

/-!
This module contains `check_redis`. The `int` that the length of the INFO text is read into becomes
a `size_t`.
-/

namespace NetmonPlugins
namespace RedisPlugin

structure Config where
  hostname : Bytes := []
  port : Int := 6379
  password : Bytes := []

/-- The word read so far, and what follows it: `while (iss >> part) parts.push_back(part)`. -/
def splitWords (part : Bytes) : Bytes → List Bytes
  | [] => if part = [] then [] else [part]
  | b :: rest =>
    if isSpace b then
      (if part = [] then [] else [part]) ++ splitWords [] rest
    else
      splitWords (part ++ [b]) rest

def encodeCommand (parts : List Bytes) : Bytes :=
  str "*" ++ natDec parts.length ++ crlf
    ++ parts.flatMap fun p => str "$" ++ natDec p.length ++ crlf ++ p ++ crlf

/-- The comment in the source: Redis responses end with \r\n. -/
def isComplete (response : Bytes) : Bool :=
  response.length > 2 && response[response.length - 2]? = some 13

def commandBytes (command : Bytes) : Bytes := encodeCommand (splitWords [] command)

def sendRedisCommand (command : Bytes) : Dialogue Bytes :=
  .send (commandBytes command) fun ok =>
    if !ok then .done [] else .read 8191 isComplete [] .done

def extractInfoValue (info key : Bytes) : Bytes :=
  match find info (key ++ str ":") 0 with
  | none => []
  | some pos =>
    let pos := pos + key.length + 1
    match find info crlf pos with
    | some endPos => substr info pos (endPos - pos)
    | none =>
      match find info (str "\n") pos with
      | some endPos => substr info pos (endPos - pos)
      | none => []

def substrInt (s : Bytes) (pos : Nat) (len : Int) : Bytes :=
  if len < 0 then s.drop pos else substr s pos len.toNat

def parseInfo (infoResponse : Bytes) : Except StdException Bytes :=
  if startsWith infoResponse '$' then
    match find infoResponse crlf 0 with
    | some lenEnd =>
      match stoi (substr infoResponse 1 (lenEnd - 1)) with
      | .ok len => .ok (substrInt infoResponse (lenEnd + 2) len)
      | .error e => .error e
    | none => .ok []
  else
    .ok infoResponse

def hitRatio (keyspaceHits keyspaceMisses : Bytes) : Double :=
  if keyspaceHits ≠ [] ∧ keyspaceMisses ≠ [] then
    match stol keyspaceHits, stol keyspaceMisses with
    | .ok hits, .ok misses =>
      -- The sum is taken to be in the range of `long`, and the quotient is exact.
      if hits + misses > 0 then .ofInt hits / .ofInt (hits + misses) * 100 else 0
    | _, _ => 0
  else
    0

def report (info : Bytes) : PluginResult :=
  let connectedClients := extractInfoValue info (str "connected_clients")
  let usedMemory := extractInfoValue info (str "used_memory")
  let usedMemoryHuman := extractInfoValue info (str "used_memory_human")
  let totalCommandsProcessed := extractInfoValue info (str "total_commands_processed")
  let keyspaceHits := extractInfoValue info (str "keyspace_hits")
  let keyspaceMisses := extractInfoValue info (str "keyspace_misses")
  let uptimeInSeconds := extractInfoValue info (str "uptime_in_seconds")
  let redisVersion := extractInfoValue info (str "redis_version")
  { code := .ok
    message := str "Redis OK - Version " ++ redisVersion ++ str ", " ++ connectedClients
      ++ str " clients, " ++ usedMemoryHuman ++ str " used"
    perfdata := str "clients=" ++ connectedClients ++ str " memory=" ++ usedMemory
      ++ str " commands=" ++ totalCommandsProcessed
      ++ str " hit_ratio=" ++ fixed 2 (hitRatio keyspaceHits keyspaceMisses) ++ str "%"
      ++ str " hits=" ++ keyspaceHits ++ str " misses=" ++ keyspaceMisses
      ++ str " uptime=" ++ uptimeInSeconds }

def critical (reason : Bytes) : PluginResult :=
  { code := .critical, message := str "Redis CRITICAL - " ++ reason }

def infoResult (infoResponse : Bytes) : PluginResult :=
  match parseInfo infoResponse with
  | .error e => { code := .unknown, message := str "Redis check failed: " ++ e.what }
  | .ok info => if info = [] then critical (str "Invalid INFO response") else report info

def authenticated (authResponse : Bytes) : Bool :=
  contains authResponse (str "OK") || contains authResponse (str "+OK")

def ponged (pingResponse : Bytes) : Bool :=
  contains pingResponse (str "PONG") || contains pingResponse (str "+PONG")

def pingAndInfo : Dialogue PluginResult := do
  let pingResponse ← sendRedisCommand (str "PING")
  if !ponged pingResponse then
    return critical (str "PING failed")
  let infoResponse ← sendRedisCommand (str "INFO")
  return infoResult infoResponse

def check (connected : Bool) (config : Config) : Dialogue PluginResult := do
  if config.hostname = [] then
    return hostnameMissing
  if !connected then
    return critical (str "Cannot connect to " ++ config.hostname ++ str ":" ++ intDec config.port)
  if config.password ≠ [] then
    let authResponse ← sendRedisCommand (str "AUTH " ++ config.password)
    if !authenticated authResponse then
      return critical (str "Authentication failed")
  pingAndInfo

open CommandLine

def settings : List (Setting Config) :=
  [.text ["-H", "--hostname"] (·.hostname) fun text config => { config with hostname := text },
    .int ["-p", "--port"] (·.port) fun number config => { config with port := number },
    .text ["-a", "--password"] (·.password) fun text config => { config with password := text },
    .unread stoi ["-t", "--timeout"]]

def parseArguments (args : List Bytes) : Except Stop Config := scan (branchOf settings) {} args

end RedisPlugin
end NetmonPlugins

import NetmonPlugins.Common.LineProtocol
import NetmonPlugins.Common.Settings
import NetmonPlugins.Cxx.Numeric

/-!
This module contains `check_memcached` as it is built on Linux.
-/

namespace NetmonPlugins
namespace MemcachedPlugin

structure Config where
  hostname : Bytes := []
  port : Int := 11211

def isComplete (response : Bytes) : Bool := contains response (str "END\r\n")

def sendCommand (command : Bytes) : Dialogue Bytes :=
  .send (command ++ crlf) fun ok =>
    if !ok then .done [] else .read 8191 isComplete [] .done

def extractStatValue (stats key : Bytes) : Int :=
  match find stats (key ++ str " ") 0 with
  | none => -1
  | some pos =>
    let pos := pos + key.length + 1
    match find stats crlf pos with
    | none => -1
    | some endPos =>
      match stoi (substr stats pos (endPos - pos)) with
      | .ok value => value
      | .error _ => -1

/-- `a + b` of two `int`, which is undefined where the sum is no `int`. -/
def addInt (a b : Int) : Option Int :=
  if -2 ^ 31 ≤ a + b ∧ a + b < 2 ^ 31 then some (a + b) else none

def hitRatio (getHits getMisses : Int) : Option Double :=
  if getHits ≥ 0 ∧ getMisses ≥ 0 then
    (addInt getHits getMisses).map fun sum =>
      if sum > 0 then .ofInt getHits / .ofInt sum * 100 else 0
  else
    some 0

/-- `none` where a sum is undefined. -/
def report (statsResponse : Bytes) : Option PluginResult :=
  let currConnections := extractStatValue statsResponse (str "STAT curr_connections")
  let totalConnections := extractStatValue statsResponse (str "STAT total_connections")
  let getHits := extractStatValue statsResponse (str "STAT get_hits")
  let getMisses := extractStatValue statsResponse (str "STAT get_misses")
  let bytes := extractStatValue statsResponse (str "STAT bytes")
  let currItems := extractStatValue statsResponse (str "STAT curr_items")
  let evictions := extractStatValue statsResponse (str "STAT evictions")
  (hitRatio getHits getMisses).map fun ratio =>
    { code := .ok
      message := str "Memcached OK - " ++ intDec currConnections ++ str " connections, "
        ++ intDec currItems ++ str " items, " ++ fixed 2 ratio ++ str "% hit ratio"
      perfdata := str "connections=" ++ intDec currConnections
        ++ str " total_connections=" ++ intDec totalConnections
        ++ str " items=" ++ intDec currItems ++ str " bytes=" ++ intDec bytes
        ++ str " hit_ratio=" ++ fixed 2 ratio ++ str "%"
        ++ str " hits=" ++ intDec getHits ++ str " misses=" ++ intDec getMisses
        ++ str " evictions=" ++ intDec evictions }

def critical (reason : Bytes) : PluginResult :=
  { code := .critical, message := str "Memcached CRITICAL - " ++ reason }

def checkStats (statsResponse : Bytes) : Option PluginResult :=
  if statsResponse = [] ∨ contains statsResponse (str "STAT") = false then
    some (critical (str "Invalid response from server"))
  else
    report statsResponse

/-- Nothing in the `try` block throws. -/
def check (connected : Bool) (config : Config) : Dialogue (Option PluginResult) := do
  if config.hostname = [] then
    return hostnameMissing
  if !connected then
    return critical (str "Cannot connect to " ++ config.hostname ++ str ":" ++ intDec config.port)
  let statsResponse ← sendCommand (str "stats")
  return checkStats statsResponse

open CommandLine

def settings : List (Setting Config) :=
  [.text ["-H", "--hostname"] (·.hostname) fun text config => { config with hostname := text },
    .int ["-p", "--port"] (·.port) fun number config => { config with port := number },
    .unread stoi ["-t", "--timeout"]]

def parseArguments (args : List Bytes) : Except Stop Config := scan (branchOf settings) {} args

end MemcachedPlugin
end NetmonPlugins

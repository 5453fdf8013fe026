import NetmonPlugins.Common.LineProtocol
import NetmonPlugins.Common.Settings

/-!
This module contains `check_zookeeper`. A response is read up to the receive that brings a newline.
-/

namespace NetmonPlugins
namespace ZookeeperPlugin

structure Config where
  hostname : Bytes := []
  port : Int := 2181
  checkType : Bytes := str "ruok"

def sendZookeeperCommand (command : Bytes) : Dialogue Bytes :=
  .send (command ++ str "\n") fun ok =>
    if !ok then .done [] else .read 4095 (contains · (str "\n")) [] .done

def commandOf (checkType : Bytes) : Bytes :=
  if checkType = str "ruok" then str "ruok"
  else if checkType = str "stat" then str "stat"
  else if checkType = str "mntr" then str "mntr"
  else str "ruok"

def judge (checkType response : Bytes) : PluginResult :=
  if response = [] then
    { code := .critical, message := str "Zookeeper CRITICAL - No response from server" }
  else if checkType = str "ruok" then
    if contains response (str "imok") then
      { code := .ok, message := str "Zookeeper OK - Server is responding (imok)" }
    else
      { code := .critical, message := str "Zookeeper CRITICAL - Server response: " ++ response }
  else if checkType = str "stat" ∨ checkType = str "mntr" then
    if contains response (str "Zookeeper version") || contains response (str "zk_version") then
      { code := .ok, message := str "Zookeeper OK - Server is responding" }
    else
      { code := .warning, message := str "Zookeeper WARNING - Unexpected response format" }
  else
    { code := .ok, message := str "Zookeeper OK - Server is responding" }

def cannotConnect (config : Config) : PluginResult :=
  { code := .critical
    message := str "Zookeeper CRITICAL - Cannot connect to " ++ config.hostname ++ str ":"
      ++ intDec config.port }

def check (connected : Bool) (config : Config) : Dialogue PluginResult := do
  if config.hostname = [] then
    return hostnameMissing
  if !connected then
    return cannotConnect config
  let response ← sendZookeeperCommand (commandOf config.checkType)
  return judge config.checkType response

open CommandLine

def settings : List (Setting Config) :=
  [.text ["-H", "--hostname"] (·.hostname) fun text config => { config with hostname := text },
    .int ["-p", "--port"] (·.port) fun number config => { config with port := number },
    .text ["-c", "--check"] (·.checkType) fun text config => { config with checkType := text },
    .unread stoi ["-T", "--timeout"]]

def parseArguments (args : List Bytes) : Except Stop Config := scan (branchOf settings) {} args

end ZookeeperPlugin
end NetmonPlugins

import NetmonPlugins.Common.HttpApi.Impl
import NetmonPlugins.Common.JsonUtils.Impl
import NetmonPlugins.Common.Plugin
import NetmonPlugins.Common.Settings

/-!
This module contains `check_docker`, which asks the daemon over its Unix socket or over TCP.
-/

namespace NetmonPlugins
namespace DockerPlugin

structure Config where
  socketPath : Bytes := str "/var/run/docker.sock"
  hostname : Bytes := []
  port : Int := 2375
  useSocket : Bool := true
  useTLS : Bool := false
  timeoutSeconds : Int := 10
  containerName : Bytes := []

structure Daemon where
  isSocket : Bytes → Bool
  socket : Bytes → Bytes → Connection 8191
  tcp : Server

def socketRequest (path : Bytes) : Bytes :=
  str "GET " ++ path ++ str " HTTP/1.1" ++ crlf
    ++ str "Host: localhost" ++ crlf
    ++ str "Connection: close" ++ crlf
    ++ crlf

def parseSocket (fullResponse : Bytes) : Bytes :=
  match find fullResponse (crlf ++ crlf) 0 with
  | some headerEnd => fullResponse.drop (headerEnd + 4)
  | none => fullResponse

def dockerApiRequest (sslEnabled : Bool) (daemon : Daemon) (config : Config) (path : Bytes)
    : Except StdException Bytes :=
  if config.useSocket then
    match daemon.socket config.socketPath (socketRequest path) with
    | .failed => .ok []
    | .stream chunks => .ok (parseSocket (recvLoop chunks []))
  else
    -- The status code is dropped.
    match httpGet sslEnabled daemon.tcp config.hostname config.port path config.useTLS
      config.timeoutSeconds with
    | .ok (_, response) => .ok response
    | .error e => .error e

def failed (e : StdException) : PluginResult :=
  { code := .unknown, message := str "Docker check failed: " ++ e.what }

def checkContainer (sslEnabled : Bool) (daemon : Daemon) (config : Config) : PluginResult :=
  match dockerApiRequest sslEnabled daemon config
    (str "/containers/" ++ config.containerName ++ str "/json") with
  | .error e => failed e
  | .ok response =>
    if response = [] then
      { code := .critical
        message := str "Docker CRITICAL - Container not found: " ++ config.containerName }
    else
      let state := extractJsonNestedValue response (str "State.Status")
      if state = str "running" then
        { code := .ok
          message := str "Docker OK - Container \"" ++ config.containerName
            ++ str "\" is running" }
      else
        { code := .critical
          message := str "Docker CRITICAL - Container \"" ++ config.containerName
            ++ str "\" is not running (status: " ++ state ++ str ")" }

def check (sslEnabled : Bool) (daemon : Daemon) (config : Config) : PluginResult :=
  if config.useSocket && !daemon.isSocket config.socketPath then
    { code := .critical
      message := str "Docker CRITICAL - Docker socket not found: " ++ config.socketPath }
  else if !config.useSocket && config.hostname = [] then
    { code := .unknown, message := str "Hostname must be specified when not using socket" }
  else
    match dockerApiRequest sslEnabled daemon config (str "/_ping") with
    | .error e => failed e
    | .ok response =>
      if response = [] || !contains response (str "OK") then
        { code := .critical
          message := str "Docker CRITICAL - Cannot connect to Docker daemon" }
      else if config.containerName ≠ [] then
        checkContainer sslEnabled daemon config
      else
        { code := .ok, message := str "Docker OK - Docker daemon is responding" }

open CommandLine

/-- How the daemon is reached. -/
@[ext]
structure Target where
  socketPath : Bytes
  hostname : Bytes
  port : Int
  useSocket : Bool
  useTLS : Bool

def target : Setting Config where
  Part := Target
  get config :=
    ⟨config.socketPath, config.hostname, config.port, config.useSocket, config.useTLS⟩
  put target config :=
    { config with
      socketPath := target.socketPath
      hostname := target.hostname
      port := target.port
      useSocket := target.useSocket
      useTLS := target.useTLS }
  get_put _ _ := rfl
  put_get _ := rfl
  members := [⟨_, Target.socketPath⟩, ⟨_, Target.hostname⟩, ⟨_, Target.port⟩, ⟨_, Target.useSocket⟩,
    ⟨_, Target.useTLS⟩]
  members_ext _ _ h := by
    simp only [List.forall_mem_cons] at h
    exact Target.ext h.1 h.2.1 h.2.2.1 h.2.2.2.1 h.2.2.2.2.1
  options :=
    [([str "-H", str "--hostname"], .value fun value =>
        .ok fun target => { target with hostname := value, useSocket := false }),
      ([str "-p", str "--port"], .value fun value =>
        converted (stoi value) fun port target => { target with port := port, useSocket := false }),
      ([str "-s", str "--socket"], .value fun value =>
        .ok fun target => { target with socketPath := value, useSocket := true }),
      ([str "-S", str "--ssl"], .set fun target =>
        { target with useTLS := true, useSocket := false })]

def settings : List (Setting Config) :=
  [target,
    .text ["-c", "--container"] (·.containerName)
      fun text config => { config with containerName := text },
    .int ["-t", "--timeout"] (·.timeoutSeconds)
      fun number config => { config with timeoutSeconds := number }]

def parseArguments (args : List Bytes) : Except Stop Config := scan (branchOf settings) {} args

end DockerPlugin
end NetmonPlugins

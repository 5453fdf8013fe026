import NetmonPlugins.Common.CommandLine
import NetmonPlugins.Common.LineProtocol

/-!
This module contains `check_tcp`: its check is whether the connection is set up within the timeout.
-/

namespace NetmonPlugins
namespace TcpPlugin

open CommandLine

structure Config where
  hostname : Bytes := []
  port : Int := -1
  timeoutSeconds : Int := 10

/-- Whether a host can be reached at a port within so many seconds. -/
abbrev Network := Bytes → Int → Int → Bool

inductive ConnectResult where
  | connected
  -- What becomes of the attempt is asked for with `select`.
  | inProgress
  | failed
  deriving DecidableEq

/-- One of the addresses of a host, with what the attempt to connect to it meets. -/
structure Address where
  -- A socket can be made for its family.
  socket : Bool
  connect : ConnectResult
  -- What `select` says within the timeout, and what `SO_ERROR` is then.
  writable : Bool
  soError : Int
  deriving DecidableEq

def Address.connectTcp (address : Address) : Bool :=
  if !address.socket then
    false
  else if address.connect ≠ .connected then
    -- Whether the attempt has failed at once is not asked here.
    if address.writable then address.soError = 0 else false
  else
    true

/-- `getaddrinfo` fails or returns the addresses of a host, at least one. -/
def connectTcp (getaddrinfo : Bytes → Int → List Address) : Network := fun host port _timeout =>
  match getaddrinfo host port with
  | [] => false
  | address :: _ => address.connectTcp

def check (connectTcp : Network) (config : Config) : PluginResult :=
  if config.hostname = [] ∨ config.port < 0 then
    { code := .unknown, message := str "Hostname and port must be specified" }
  else
    availability (str "TCP") config.hostname config.port (str "accepting connections")
      (connectTcp config.hostname config.port config.timeoutSeconds)

def branch (arg : Bytes) : Branch Config :=
  if arg = str "-h" ∨ arg = str "--help" then
    .help
  else if arg = str "-H" ∨ arg = str "--hostname" then
    .value fun value => .ok fun config => { config with hostname := value }
  else if arg = str "-p" ∨ arg = str "--port" then
    .value fun value => converted (stoi value) fun port config => { config with port := port }
  else if arg = str "-t" ∨ arg = str "--timeout" then
    .value fun value =>
      converted (stoi value) fun seconds config => { config with timeoutSeconds := seconds }
  else
    .set id

def parseArguments (args : List Bytes) : Except Stop Config := scan branch {} args

def main (connectTcp : Network) (args : List Bytes) : Ending :=
  CommandLine.main branch {}
    (fun config => .exit (executePlugin (.ok (check connectTcp config))).2) args

end TcpPlugin
end NetmonPlugins

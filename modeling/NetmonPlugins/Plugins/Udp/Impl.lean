import NetmonPlugins.Common.LineProtocol
import NetmonPlugins.Common.Settings
import NetmonPlugins.Net.Datagram

/-!
This module contains `check_udp`.
-/

namespace NetmonPlugins
namespace UdpPlugin

structure Config where
  hostname : Bytes := []
  port : Int := -1
  sendString : Bytes := []
  expectString : Bytes := []

/-- `addressed` says that the name was resolved and a socket was made. -/
def checkUdp (addressed : Bool) (send expect : Bytes) : Exchange Bool :=
  if !addressed then
    .done false
  else
    let receive : Exchange Bool :=
      if expect ≠ [] then
        .recvfrom 1023 fun
          | some response =>
            .done (if response ≠ [] then contains (cstr response) expect else false)
          | none => .done false
      else
        .recvfrom 1 fun received => .done received.isSome
    if send ≠ [] then .sendto send receive else receive

def check (addressed : Bool) (config : Config) : Exchange PluginResult :=
  if config.hostname = [] ∨ config.port < 0 then
    .done { code := .unknown, message := str "Hostname and port must be specified" }
  else
    (checkUdp addressed config.sendString config.expectString).map
      (availability (str "UDP") config.hostname config.port (str "responding"))

open CommandLine

def settings : List (Setting Config) :=
  [.text ["-H", "--hostname"] (·.hostname) fun text config => { config with hostname := text },
    .int ["-p", "--port"] (·.port) fun number config => { config with port := number },
    .unread stoi ["-t", "--timeout"],
    .text ["-s", "--send"] (·.sendString) fun text config => { config with sendString := text },
    .text ["-e", "--expect"] (·.expectString)
      fun text config => { config with expectString := text }]

def parseArguments (args : List Bytes) : Except Stop Config := scan (branchOf settings) {} args

end UdpPlugin
end NetmonPlugins

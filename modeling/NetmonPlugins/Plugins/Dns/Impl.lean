import NetmonPlugins.Common.Plugin
import NetmonPlugins.Common.Settings

/-!
This module contains `check_dns`, as it is built on Linux, and `check_dig`. Neither of them speaks to
a name server: both ask the resolver of the host, whatever server is given.
-/

namespace NetmonPlugins

inductive Family where
  | inet
  | inet6
  deriving DecidableEq

/-- The addresses that `getaddrinfo` has of a name, as `inet_ntop` writes them; `none` where it
fails. -/
abbrev Resolver := Family → Bytes → Option (List Bytes)

/-- `for (size_t i = 0; i < results.size(); i++) { if (i > 0) msg << ", "; msg << results[i]; }` -/
def listed (results : List Bytes) : Bytes := (str ", ").intercalate results

namespace DnsPlugin

structure Config where
  hostname : Bytes := []
  expectedIP : Bytes := []
  server : Bytes := []

def resolveDNS (resolver : Resolver) (host _dnsServer : Bytes) : List Bytes :=
  match resolver .inet host with
  | some addresses => addresses
  | none => []

def compare (config : Config) (addresses : List Bytes) : ExitCode × Bytes :=
  let resolved := config.hostname ++ str " resolved to " ++ listed addresses
  if config.expectedIP = [] then
    (.ok, str "DNS OK - " ++ resolved)
  else if addresses.contains config.expectedIP then
    (.ok, str "DNS OK - " ++ resolved ++ str " (matches expected: " ++ config.expectedIP ++ str ")")
  else
    (.warning, str "DNS WARNING - " ++ resolved ++ str " (expected: " ++ config.expectedIP
      ++ str ")")

def perfdata (addresses : List Bytes) : Bytes :=
  str "dns_resolution_time=0ms addresses=" ++ natDec addresses.length

def check (resolver : Resolver) (config : Config) : PluginResult :=
  if config.hostname = [] then
    { code := .unknown, message := str "Hostname must be specified" }
  else
    let addresses := resolveDNS resolver config.hostname config.server
    if addresses = [] then
      { code := .critical
        message := str "DNS CRITICAL - " ++ config.hostname ++ str " could not be resolved" }
    else
      let (code, message) := compare config addresses
      { code := code, message := message, perfdata := perfdata addresses }

open CommandLine

def settings : List (Setting Config) :=
  [.text ["-H", "--hostname"] (·.hostname) fun text config => { config with hostname := text },
    .text ["-a", "--address"] (·.expectedIP)
      fun text config => { config with expectedIP := text },
    .text ["-s", "--server"] (·.server) fun text config => { config with server := text },
    .unread stoi ["-t", "--timeout"]]

def parseArguments (args : List Bytes) : Except Stop Config := scan (branchOf settings) {} args

end DnsPlugin

namespace DigPlugin

structure Config where
  hostname : Bytes := []
  queryType : Bytes := str "A"
  server : Bytes := []
  expectString : Bytes := []

/-- Queries of other types have no results. -/
def queryDNS (resolver : Resolver) (host type _dnsServer : Bytes) : List Bytes :=
  if type = str "A" ∨ type = str "AAAA" then
    match resolver (if type = str "AAAA" then .inet6 else .inet) host with
    | some results => results
    | none => []
  else
    []

def compare (config : Config) (results : List Bytes) : ExitCode × Bytes :=
  let returned := str "DIG OK - " ++ config.hostname ++ str " " ++ config.queryType
    ++ str " query returned: " ++ listed results
  if config.expectString ≠ [] ∧ results.any (contains · config.expectString) = false then
    (.warning, returned ++ str " (expected: " ++ config.expectString ++ str " not found)")
  else
    (.ok, returned)

def perfdata (results : List Bytes) : Bytes :=
  str "dns_query_time=0ms results=" ++ natDec results.length

def check (resolver : Resolver) (config : Config) : PluginResult :=
  if config.hostname = [] then
    { code := .unknown, message := str "Hostname must be specified" }
  else
    let results := queryDNS resolver config.hostname config.queryType config.server
    if results = [] then
      { code := .critical
        message := str "DIG CRITICAL - " ++ config.hostname ++ str " " ++ config.queryType
          ++ str " query returned no results" }
    else
      let (code, message) := compare config results
      { code := code, message := message, perfdata := perfdata results }

open CommandLine

def settings : List (Setting Config) :=
  [.text ["-H", "--hostname"] (·.hostname) fun text config => { config with hostname := text },
    .text ["-t", "--type"] (·.queryType) fun text config => { config with queryType := text },
    .text ["-s", "--server"] (·.server) fun text config => { config with server := text },
    .text ["-e", "--expect"] (·.expectString)
      fun text config => { config with expectString := text }]

def parseArguments (args : List Bytes) : Except Stop Config := scan (branchOf settings) {} args

end DigPlugin
end NetmonPlugins

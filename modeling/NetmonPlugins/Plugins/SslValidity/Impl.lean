import NetmonPlugins.Common.Plugin
import NetmonPlugins.Common.Settings

/-!
This module contains `check_ssl_validity` with and without OpenSSL.
-/

namespace NetmonPlugins
namespace SslValidityPlugin

structure Config where
  hostname : Bytes := []
  port : Int := 443
  timeoutSeconds : Int := 10
  warningDays : Int := 30
  criticalDays : Int := 7

/-- Seconds since the epoch, in the years 0 to 9999 that a certificate can name. -/
structure Instant where
  seconds : Int
  le_seconds : -62167219200 ≤ seconds
  seconds_le : seconds ≤ 253402300799

structure UtcOffset where
  -- What the local time is ahead of UTC.
  seconds : Int
  le_seconds : -43200 ≤ seconds
  seconds_le : seconds ≤ 50400

structure Clock where
  now : Instant
  utcOffset : UtcOffset

inductive Peer where
  | unreachable
  | noCertificate
  -- The end may be unreadable.
  | certificate (notAfter : Option Instant)

/-- `mktime` takes the fields of the UTC time for local time. -/
def mktime (clock : Clock) (notAfter : Instant) : Int :=
  notAfter.seconds - clock.utcOffset.seconds

def castInt (i : Int) : Int := i.bmod (2 ^ 32)

/-- The value of `daysUntilExpiry`, which is 0 unless it is set, if there is a certificate. -/
def checkSslCertificate (sslEnabled : Bool) (connect : Bytes → Int → Int → Peer) (clock : Clock)
    (host : Bytes) (portNum timeout : Int)
    : Option Int :=
  match connect host portNum timeout with
  | .unreachable => none
  | .noCertificate => if sslEnabled then none else some (-1)
  | .certificate notAfter =>
    if sslEnabled then
      match notAfter with
      | some notAfter => some (castInt ((mktime clock notAfter - clock.now.seconds).tdiv 86400))
      | none => some 0
    else
      -- Unknown without OpenSSL
      some (-1)

def check (sslEnabled : Bool) (connect : Bytes → Int → Int → Peer) (clock : Clock) (config : Config)
    : PluginResult :=
  if config.hostname = [] then
    { code := .unknown, message := str "Hostname must be specified" }
  else
    match checkSslCertificate sslEnabled connect clock config.hostname config.port
      config.timeoutSeconds with
    | none =>
      { code := .critical
        message := str "SSL CRITICAL - Cannot connect to " ++ config.hostname ++ str ":"
          ++ intDec config.port }
    | some daysUntilExpiry =>
      let msg := str "SSL OK - Certificate for " ++ config.hostname ++ str ":" ++ intDec config.port
      if daysUntilExpiry ≥ 0 then
        let msg := msg ++ str " expires in " ++ intDec daysUntilExpiry ++ str " day"
          ++ (if daysUntilExpiry ≠ 1 then str "s" else [])
        let perfdata := str "days_until_expiry=" ++ intDec daysUntilExpiry ++ str ";"
          ++ intDec config.warningDays ++ str ";" ++ intDec config.criticalDays
        if daysUntilExpiry ≤ config.criticalDays then
          { code := .critical
            message := msg ++ str " (CRITICAL: expires within " ++ intDec config.criticalDays
              ++ str " days)"
            perfdata := perfdata }
        else if daysUntilExpiry ≤ config.warningDays then
          { code := .warning
            message := msg ++ str " (WARNING: expires within " ++ intDec config.warningDays
              ++ str " days)"
            perfdata := perfdata }
        else
          { code := .ok, message := msg, perfdata := perfdata }
      else
        { code := .ok
          message := msg ++ str " (expiry unknown - SSL support not compiled in)" }

open CommandLine

def settings : List (Setting Config) :=
  [.text ["-H", "--hostname"] (·.hostname) fun text config => { config with hostname := text },
    .int ["-p", "--port"] (·.port) fun number config => { config with port := number },
    .int ["-t", "--timeout"] (·.timeoutSeconds)
      fun number config => { config with timeoutSeconds := number },
    .int ["-w", "--warning"] (·.warningDays)
      fun number config => { config with warningDays := number },
    .int ["-c", "--critical"] (·.criticalDays)
      fun number config => { config with criticalDays := number }]

def parseArguments (args : List Bytes) : Except Stop Config := scan (branchOf settings) {} args

end SslValidityPlugin
end NetmonPlugins

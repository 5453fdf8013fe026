import NetmonPlugins.Common.HttpApi.Impl
import NetmonPlugins.Common.Plugin
import NetmonPlugins.Common.Settings
import NetmonPlugins.Cxx.Regex.Anchored
import NetmonPlugins.Cxx.Strtod

/-!
This module contains `check_prometheus`. The name of a metric has no special characters.
-/

namespace NetmonPlugins
namespace PrometheusPlugin

open Regex

structure Config where
  hostname : Bytes := []
  port : Int := 9090
  path : Bytes := str "/metrics"
  timeoutSeconds : Int := 10
  metricName : Bytes := []
  warningValue : Double := .fin (-1)
  criticalValue : Double := .fin (-1)

/-- The ways to match `[0-9]+\\.?[0-9]*|nan|inf`, in the order in which they are tried. -/
def number : List (List Item) :=
  [[.one isDigit, .many isDigit, .one (· = 46), .many isDigit], [.one isDigit, .many isDigit],
    literal (str "nan"), literal (str "inf")]

/--
`front + "\\s+([0-9]+\\.?[0-9]*|nan|inf)"`. A match has one way to get to the number only, which
begins with no blank: the ways to match are those of the number.
-/
def samplePattern (front : List Item) : List (List Item) :=
  number.map fun items =>
    front ++ (.one isSpace :: .many isSpace :: .openGroup :: (items ++ [.closeGroup]))

/-- `name + "\\{[^}]*\\}"` -/
def labelled (name : Bytes) : List Item :=
  literal name ++ [.one (· = 123), .many (· ≠ 125), .one (· = 125)]

def valueOf (valueStr : Bytes) : Double :=
  if valueStr = str "nan" ∨ valueStr = str "inf" then
    .fin 0
  else
    match stod valueStr with
    | .ok value => value
    | .error _ => .fin 0

def extractMetricValue (metrics name : Bytes) : Double :=
  match searchLines (samplePattern (labelled name)) metrics with
  | some (_, m) => valueOf m.group
  | none =>
    match searchLines (samplePattern (literal name)) metrics with
    | some (_, m) => valueOf m.group
    | none => .fin (-1)

def report (config : Config) (value : Double) : PluginResult :=
  let measured := config.metricName ++ str " = " ++ general value
  let perfdata := config.metricName ++ str "=" ++ general value
    ++ (if config.warningValue ≥ 0 then
          str ";" ++ general config.warningValue ++ str ";" ++ general config.criticalValue
        else
          [])
  if config.criticalValue ≥ 0 ∧ value ≥ config.criticalValue then
    { code := .critical
      message := str "Prometheus CRITICAL - " ++ measured ++ str " (exceeds critical threshold of "
        ++ general config.criticalValue ++ str ")"
      perfdata := perfdata }
  else if config.warningValue ≥ 0 ∧ value ≥ config.warningValue then
    { code := .warning
      message := str "Prometheus WARNING - " ++ measured ++ str " (exceeds warning threshold of "
        ++ general config.warningValue ++ str ")"
      perfdata := perfdata }
  else
    { code := .ok, message := str "Prometheus OK - " ++ measured, perfdata := perfdata }

def notFound (metricName : Bytes) : PluginResult :=
  { code := .unknown, message := str "Prometheus UNKNOWN - Metric not found: " ++ metricName }

def check (sslEnabled : Bool) (server : Server) (config : Config) : PluginResult :=
  if config.hostname = [] then
    { code := .unknown, message := str "Hostname must be specified" }
  else
    match httpGet sslEnabled server config.hostname config.port config.path false
      config.timeoutSeconds with
    | .error e => { code := .unknown, message := str "Prometheus check failed: " ++ e.what }
    | .ok (statusCode, response) =>
      if statusCode ≠ 200 ∨ response = [] then
        { code := .critical
          message := str "Prometheus CRITICAL - Cannot connect to metrics endpoint or invalid response" }
      else if config.metricName = [] then
        { code := .ok, message := str "Prometheus OK - Metrics endpoint is accessible" }
      else
        let value := extractMetricValue response config.metricName
        if value < 0 then notFound config.metricName else report config value

example : extractMetricValue (str "# TYPE up gauge\nup_since 9\nup\x7bjob=\"web\"\x7d 0.5 1700\n") (str "up")
    = .fin (1 / 2) := by decide +kernel

open CommandLine

def settings : List (Setting Config) :=
  [.text ["-H", "--hostname"] (·.hostname) fun text config => { config with hostname := text },
    .int ["-p", "--port"] (·.port) fun number config => { config with port := number },
    .text ["-u", "--uri"] (·.path) fun text config => { config with path := text },
    .text ["-m", "--metric"] (·.metricName) fun text config => { config with metricName := text },
    .double ["-w", "--warning"] (·.warningValue)
      fun number config => { config with warningValue := number },
    .double ["-c", "--critical"] (·.criticalValue)
      fun number config => { config with criticalValue := number },
    .int ["-t", "--timeout"] (·.timeoutSeconds)
      fun number config => { config with timeoutSeconds := number }]

def parseArguments (args : List Bytes) : Except Stop Config := scan (branchOf settings) {} args

end PrometheusPlugin
end NetmonPlugins

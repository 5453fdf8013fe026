import NetmonPlugins.Common.Plugin
import NetmonPlugins.Common.Settings
import NetmonPlugins.Cxx.Strtod

/-!
This module contains `check_sensors` as it is built on Linux.
-/

namespace NetmonPlugins
namespace SensorsPlugin

structure Config where
  warningTemp : Double := 70
  criticalTemp : Double := 85

/-- The contents of the files that can be opened. -/
abbrev Files := Bytes → Option Bytes

def commonPaths : List Bytes :=
  [str "/sys/class/thermal/thermal_zone0/temp", str "/sys/class/hwmon/hwmon0/temp1_input",
    str "/sys/class/hwmon/hwmon1/temp1_input", str "/proc/acpi/thermal_zone/THM0/temperature"]

def findSensorDevices (files : Files) : List Bytes :=
  commonPaths.filter fun path => (files path).isSome

/-- `file >> value` of a string. -/
def extractWord (content : Bytes) : Bytes :=
  (content.dropWhile isSpace).takeWhile (!isSpace ·)

def readTemperature (files : Files) (path : Bytes) : Double :=
  match files path with
  | none => .fin (-1)
  | some content =>
    let value := extractWord content
    if value = [] then
      .fin (-1)
    else
      match stod value with
      -- Some sensors report in millidegrees.
      | .ok temp => if temp > 1000 then temp / 1000 else temp
      | .error _ => .fin (-1)

/-- `*std::max_element` of a range that is not empty. -/
def maxElement (largest : Double) (rest : List Double) : Double :=
  rest.foldl (fun largest temp => if largest < temp then temp else largest) largest

/-- `°C` in UTF-8 -/
def celsius : Bytes := [0xC2, 0xB0, 67]

def perfdata (config : Config) (temperatures : List Double) : Bytes :=
  (str " ").intercalate <| (temperatures.zipIdx 1).map fun (temp, i) =>
    str "temp_" ++ natDec i ++ str "=" ++ fixed 1 temp ++ str ";" ++ fixed 1 config.warningTemp
      ++ str ";" ++ fixed 1 config.criticalTemp

def check (files : Files) (config : Config) : PluginResult :=
  let devices := findSensorDevices files
  if devices = [] then
    { code := .unknown
      message := str "Sensors UNKNOWN - No temperature sensors found. "
        ++ str "This plugin requires Linux with hardware monitoring support." }
  else
    match (devices.map (readTemperature files)).filter (fun temp => temp ≥ 0) with
    | [] =>
      { code := .unknown, message := str "Sensors UNKNOWN - Could not read temperature values" }
    | temp :: temperatures =>
      let maxTemp := maxElement temp temperatures
      let perfdata := perfdata config (temp :: temperatures)
      if maxTemp ≥ config.criticalTemp then
        { code := .critical
          message := str "Sensors CRITICAL - Max temperature: " ++ fixed 1 maxTemp ++ celsius
            ++ str " (critical threshold: " ++ fixed 1 config.criticalTemp ++ celsius ++ str ")"
          perfdata := perfdata }
      else if maxTemp ≥ config.warningTemp then
        { code := .warning
          message := str "Sensors WARNING - Max temperature: " ++ fixed 1 maxTemp ++ celsius
            ++ str " (warning threshold: " ++ fixed 1 config.warningTemp ++ celsius ++ str ")"
          perfdata := perfdata }
      else
        { code := .ok
          message := str "Sensors OK - Max temperature: " ++ fixed 1 maxTemp ++ celsius
          perfdata := perfdata }

open CommandLine

def settings : List (Setting Config) :=
  [.double ["-w", "--warning"] (·.warningTemp)
      fun number config => { config with warningTemp := number },
    .double ["-c", "--critical"] (·.criticalTemp)
      fun number config => { config with criticalTemp := number },
    .unreadText ["-s", "--sensor"]]

def parseArguments (args : List Bytes) : Except Stop Config := scan (branchOf settings) {} args

end SensorsPlugin
end NetmonPlugins

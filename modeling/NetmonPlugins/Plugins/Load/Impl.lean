import NetmonPlugins.Common.Plugin
import NetmonPlugins.Common.Settings

/-!
This module contains `check_load` as it is built on Linux. A threshold of zero or less is not set.
-/

namespace NetmonPlugins
namespace LoadPlugin

structure Config where
  warning1 : Double := .fin (-1)
  warning5 : Double := .fin (-1)
  warning15 : Double := .fin (-1)
  critical1 : Double := .fin (-1)
  critical5 : Double := .fin (-1)
  critical15 : Double := .fin (-1)

/-- The `loads` of `sysinfo`, and what `sysconf` says about the number of processors. -/
structure SysInfo where
  loads1 : UInt64
  loads5 : UInt64
  loads15 : UInt64
  numProcessors : Int
  deriving DecidableEq

structure LoadAverage where
  load1 : Double
  load5 : Double
  load15 : Double
  numProcessors : Int
  deriving DecidableEq

/-- `none` where the call of `sysinfo` fails. -/
def getLoadAverage (sysinfo : Option SysInfo) : Except StdException LoadAverage :=
  match sysinfo with
  | some info =>
    .ok { load1 := (.ofLongLong info.loads1.toNat / 65536 : Double).round
          load5 := (.ofLongLong info.loads5.toNat / 65536 : Double).round
          load15 := (.ofLongLong info.loads15.toNat / 65536 : Double).round
          numProcessors := info.numProcessors }
  | none => .error (.runtimeError (str "Failed to get system info"))

def loads (load : LoadAverage) : Bytes :=
  fixed 2 load.load1 ++ str ", " ++ fixed 2 load.load5 ++ str ", " ++ fixed 2 load.load15

def exceeded (period : Bytes) (bound : Double) : Bytes :=
  str " (" ++ period ++ str " load >= " ++ fixed 2 bound ++ str ")"

def checkThresholds (config : Config) (load : LoadAverage) : ExitCode × Bytes :=
  if config.critical1 > 0 ∧ load.load1 ≥ config.critical1 then
    (.critical, exceeded (str "1min") config.critical1)
  else if config.critical5 > 0 ∧ load.load5 ≥ config.critical5 then
    (.critical, exceeded (str "5min") config.critical5)
  else if config.critical15 > 0 ∧ load.load15 ≥ config.critical15 then
    (.critical, exceeded (str "15min") config.critical15)
  else if config.warning1 > 0 ∧ load.load1 ≥ config.warning1 then
    (.warning, exceeded (str "1min") config.warning1)
  else if config.warning5 > 0 ∧ load.load5 ≥ config.warning5 then
    (.warning, exceeded (str "5min") config.warning5)
  else if config.warning15 > 0 ∧ load.load15 ≥ config.warning15 then
    (.warning, exceeded (str "15min") config.warning15)
  else
    (.ok, str " (" ++ intDec load.numProcessors ++ str " processors)")

def bounds (warning critical : Double) : Bytes :=
  if warning > 0 then str ";" ++ fixed 2 warning ++ str ";" ++ fixed 2 critical else []

def perfdata (config : Config) (load : LoadAverage) : Bytes :=
  str "load1=" ++ fixed 2 load.load1 ++ bounds config.warning1 config.critical1
    ++ str " load5=" ++ fixed 2 load.load5 ++ bounds config.warning5 config.critical5
    ++ str " load15=" ++ fixed 2 load.load15 ++ bounds config.warning15 config.critical15

def report (config : Config) (load : LoadAverage) : PluginResult :=
  let (code, remark) := checkThresholds config load
  { code := code
    message := exitCodeToString code ++ str " - load average: " ++ loads load ++ remark
    perfdata := perfdata config load }

def check (sysinfo : Option SysInfo) (config : Config) : PluginResult :=
  match getLoadAverage sysinfo with
  | .ok load => report config load
  | .error e =>
    { code := .unknown, message := str "Failed to get load average: " ++ e.what }

open CommandLine

/-- The thresholds over one, five and fifteen minutes. -/
@[ext]
structure Bounds where
  load1 : Double
  load5 : Double
  load15 : Double

def setThresholds (threshold : Bytes) : Except Fault (Bounds → Bounds) :=
  match find threshold (str ",") 0 with
  | some comma1 => do
    let store1 ← converted (stod (substr threshold 0 comma1))
      fun load bounds => { bounds with load1 := load }
    match find threshold (str ",") (comma1 + 1) with
    | some comma2 =>
      let store5 ← converted (stod (substr threshold (comma1 + 1) (comma2 - comma1 - 1)))
        fun load bounds => { bounds with load5 := load }
      let store15 ← converted (stod (threshold.drop (comma2 + 1)))
        fun load bounds => { bounds with load15 := load }
      return store15 ∘ store5 ∘ store1
    | none =>
      let store5 ← converted (stod (threshold.drop (comma1 + 1)))
        fun load bounds => { bounds with load5 := load }
      return store5 ∘ store1
  | none => converted (stod threshold) fun load bounds => { bounds with load1 := load }

def Bounds.members : List ((α : Type) × (Bounds → α)) :=
  [⟨_, Bounds.load1⟩, ⟨_, Bounds.load5⟩, ⟨_, Bounds.load15⟩]

theorem Bounds.members_ext (bounds bounds' : Bounds)
    (h : ∀ m ∈ members, m.2 bounds = m.2 bounds')
    : bounds = bounds' := by
  unfold members at h
  simp only [List.forall_mem_cons] at h
  exact Bounds.ext h.1 h.2.1 h.2.2.1

def warning : Setting Config where
  Part := Bounds
  get config := ⟨config.warning1, config.warning5, config.warning15⟩
  put bounds config :=
    { config with warning1 := bounds.load1, warning5 := bounds.load5, warning15 := bounds.load15 }
  get_put _ _ := rfl
  put_get _ := rfl
  members := Bounds.members
  members_ext := Bounds.members_ext
  options := [([str "-w", str "--warning"], .value setThresholds)]

def critical : Setting Config where
  Part := Bounds
  get config := ⟨config.critical1, config.critical5, config.critical15⟩
  put bounds config :=
    { config with
      critical1 := bounds.load1
      critical5 := bounds.load5
      critical15 := bounds.load15 }
  get_put _ _ := rfl
  put_get _ := rfl
  members := Bounds.members
  members_ext := Bounds.members_ext
  options := [([str "-c", str "--critical"], .value setThresholds)]

def settings : List (Setting Config) :=
  [warning,
    critical]

def parseArguments (args : List Bytes) : Except Stop Config := scan (branchOf settings) {} args

end LoadPlugin
end NetmonPlugins

import NetmonPlugins.Common.Plugin
import NetmonPlugins.Common.Settings
import NetmonPlugins.Cxx.Numeric

/-!
This module contains `check_nwstat` as it is built on Linux. A threshold of zero or less is not set.
-/

namespace NetmonPlugins
namespace NwstatPlugin

structure Config where
  interface : Bytes := str "eth0"
  warningRx : Int := -1
  warningTx : Int := -1
  criticalRx : Int := -1
  criticalTx : Int := -1

structure NetworkStats where
  rxBytes : Int
  txBytes : Int
  rxPackets : Int
  txPackets : Int

/-- The text of each file that can be opened. -/
abbrev SysFs := Bytes → Option Bytes

def statisticsFile (iface name : Bytes) : Bytes :=
  str "/sys/class/net/" ++ iface ++ str "/statistics/" ++ name

def readCounter (sysfs : SysFs) (iface name : Bytes) : Int :=
  match sysfs (statisticsFile iface name) with
  | some text => extractLongLong text
  | none => 0

def getNetworkStats (sysfs : SysFs) (iface : Bytes) : NetworkStats where
  rxBytes := readCounter sysfs iface (str "rx_bytes")
  txBytes := readCounter sysfs iface (str "tx_bytes")
  rxPackets := readCounter sysfs iface (str "rx_packets")
  txPackets := readCounter sysfs iface (str "tx_packets")

def checkThresholds (config : Config) (stats : NetworkStats) : ExitCode :=
  if (config.criticalRx > 0 ∧ stats.rxBytes > config.criticalRx)
      ∨ (config.criticalTx > 0 ∧ stats.txBytes > config.criticalTx) then
    .critical
  else if (config.warningRx > 0 ∧ stats.rxBytes > config.warningRx)
      ∨ (config.warningTx > 0 ∧ stats.txBytes > config.warningTx) then
    .warning
  else
    .ok

/-- Nothing in the `try` block throws. -/
def check (sysfs : SysFs) (config : Config) : PluginResult :=
  let stats := getNetworkStats sysfs config.interface
  let code := checkThresholds config stats
  { code := code
    message := str "Network stats " ++ exitCodeToString code ++ str " - " ++ config.interface
      ++ str ": RX " ++ intDec stats.rxBytes ++ str " bytes, TX " ++ intDec stats.txBytes
      ++ str " bytes"
    perfdata := str "rx_bytes=" ++ intDec stats.rxBytes ++ str " tx_bytes=" ++ intDec stats.txBytes
      ++ str " rx_packets=" ++ intDec stats.rxPackets
      ++ str " tx_packets=" ++ intDec stats.txPackets }

open CommandLine

/-- A threshold without a comma is ignored. -/
def setThresholds (threshold : Bytes) : Except Fault (Int × Int → Int × Int) :=
  match find threshold (str ",") 0 with
  | some comma => do
    let storeRx ← converted (stoll (substr threshold 0 comma)) fun rx bounds => (rx, bounds.2)
    let storeTx ← converted (stoll (threshold.drop (comma + 1))) fun tx bounds => (bounds.1, tx)
    return storeTx ∘ storeRx
  | none => .ok id

def warning : Setting Config where
  Part := Int × Int
  get config := (config.warningRx, config.warningTx)
  put bounds config := { config with warningRx := bounds.1, warningTx := bounds.2 }
  get_put _ _ := rfl
  put_get _ := rfl
  members := [⟨_, Prod.fst⟩, ⟨_, Prod.snd⟩]
  members_ext _ _ h := by
    simp only [List.forall_mem_cons] at h
    exact Prod.ext h.1 h.2.1
  options := [([str "-w", str "--warning"], .value setThresholds)]

def critical : Setting Config where
  Part := Int × Int
  get config := (config.criticalRx, config.criticalTx)
  put bounds config := { config with criticalRx := bounds.1, criticalTx := bounds.2 }
  get_put _ _ := rfl
  put_get _ := rfl
  members := [⟨_, Prod.fst⟩, ⟨_, Prod.snd⟩]
  members_ext _ _ h := by
    simp only [List.forall_mem_cons] at h
    exact Prod.ext h.1 h.2.1
  options := [([str "-c", str "--critical"], .value setThresholds)]

def settings : List (Setting Config) :=
  [.text ["-i", "--interface"] (·.interface)
      fun text config => { config with interface := text },
    warning,
    critical]

def parseArguments (args : List Bytes) : Except Stop Config := scan (branchOf settings) {} args

end NwstatPlugin
end NetmonPlugins

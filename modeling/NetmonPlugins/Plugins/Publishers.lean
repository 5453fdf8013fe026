import NetmonPlugins.Plugins.CapacityThresholds
import NetmonPlugins.Plugins.Dns.Impl
import NetmonPlugins.Plugins.FileAge.Impl
import NetmonPlugins.Plugins.FileCount.Impl
import NetmonPlugins.Plugins.FileSize.Impl
import NetmonPlugins.Plugins.Fping.Impl
import NetmonPlugins.Plugins.Load.Impl
import NetmonPlugins.Plugins.Log.Impl
import NetmonPlugins.Plugins.Nwstat.Impl
import NetmonPlugins.Plugins.Overcr.Impl
import NetmonPlugins.Plugins.Ping.Impl
import NetmonPlugins.Plugins.Procs.Impl
import NetmonPlugins.Plugins.Sensors.Impl
import NetmonPlugins.Plugins.Users.Impl

/-!
This module contains what the checks of a host, of its resolver and of the way to another host
publish as performance data, and determines where a backend has every number of it back.
-/

namespace NetmonPlugins

open Perfdata

section

variable {p : Prop} [Decidable p] {failed result : PluginResult} {items : List (Item Unit)}

end

namespace DiskPlugin

end DiskPlugin

namespace SwapPlugin

def figures (config : Config) (swap : SwapInfo) : List (Item Unit) :=
  [plain (str "swap_total") (whole () (str "KB") swap.total),
    plain (str "swap_used") (whole () (str "KB") swap.used),
    plain (str "swap_free") (whole () (str "KB") swap.free),
    (item config swap).forget]

end SwapPlugin

namespace FileAgePlugin

def figures (config : Config) (age : Int) : List (Item Unit) :=
  [limited (str "age") (whole () (str "s") age) (decide (config.warningAge ≥ 0))
    (whole () [] config.warningAge) (whole () [] config.criticalAge)]

end FileAgePlugin

namespace FileSizePlugin

def figures (config : Config) (size : Int) : List (Item Unit) :=
  [limited (str "size") (whole () (str "B") size) (decide (config.warningSize ≥ 0))
    (whole () [] config.warningSize) (whole () [] config.criticalSize)]

end FileSizePlugin

namespace FileCountPlugin

def figures (config : Config) (count : Int) : List (Item Unit) :=
  [limited (str "count") (whole () [] count) (decide (config.warningCount ≥ 0))
    (whole () [] config.warningCount) (whole () [] config.criticalCount)]

end FileCountPlugin

namespace LogPlugin

def figures (config : Config) (matchCount fileSize : Int) : List (Item Unit) :=
  limited (str "matches") (whole () [] matchCount) (decide (config.warningCount ≥ 0))
      (whole () [] config.warningCount) (whole () [] config.criticalCount)
    :: if fileSize ≥ 0 then [plain (str "size") (whole () (str "B") fileSize)] else []

end LogPlugin

namespace NwstatPlugin

end NwstatPlugin

namespace OvercrPlugin

end OvercrPlugin

namespace LoadPlugin

def figure (label : Bytes) (load warning critical : Double) : Item Unit :=
  limited label (decimal 2 [] load) (decide (warning > 0)) (decimal 2 [] warning)
    (decimal 2 [] critical)

def figures (config : Config) (load : LoadAverage) : List (Item Unit) :=
  [figure (str "load1") load.load1 config.warning1 config.critical1,
    figure (str "load5") load.load5 config.warning5 config.critical5,
    figure (str "load15") load.load15 config.warning15 config.critical15]

end LoadPlugin

namespace Icmp

def figures (warningRTA criticalRTA warningPL criticalPL : Double) (result : PingResult)
    : List (Item Unit) :=
  [limited (str "rta") (decimal 2 (str "ms") result.avgRTT) (decide (warningRTA > 0))
      (decimal 2 [] warningRTA) (decimal 2 [] criticalRTA),
    limited (str "pl") (decimal 1 (str "%") result.packetLoss) (decide (warningPL > 0))
      (decimal 1 [] warningPL) (decimal 1 [] criticalPL)]

end Icmp

namespace PingPlugin

open Icmp

def figures (config : Config) (result : PingResult) : List (Item Unit) :=
  Icmp.figures config.warningRTA config.criticalRTA config.warningPL config.criticalPL result

end PingPlugin

namespace FpingPlugin

open Icmp

def figures (config : Config) (result : PingResult) : List (Item Unit) :=
  Icmp.figures config.warningRTA config.criticalRTA config.warningPL config.criticalPL result

end FpingPlugin

namespace ProcsPlugin

def bound (threshold : Int) : Amount Unit := whole () [] (if threshold > 0 then threshold else 0)

/-- The bounds above stand in the fields of the least and the greatest value. -/
def figure (config : Config) (processCount : Int) : Item Unit where
  label := str "procs"
  value := whole () [] processCount
  warning := if config.warningMin > 0 ∨ config.warningMax > 0 then
      some (bound config.warningMin)
    else
      none
  critical := if config.warningMin > 0 ∨ config.warningMax > 0 then
      some (bound config.criticalMin)
    else
      none
  min := if (config.warningMin > 0 ∨ config.warningMax > 0)
        ∧ (config.warningMax > 0 ∨ config.criticalMax > 0) then
      some (bound config.warningMax)
    else
      none
  max := if (config.warningMin > 0 ∨ config.warningMax > 0)
        ∧ (config.warningMax > 0 ∨ config.criticalMax > 0) then
      some (bound config.criticalMax)
    else
      none

theorem bound_text (threshold : Int) : (bound threshold).text = orZero threshold :=
  whole_text () [] _

theorem perfdata_eq_text (config : Config) (processCount : Int)
    : perfdata config processCount = (figure config processCount).text := by
  unfold perfdata figure Item.text
  by_cases hwarning : config.warningMin > 0 ∨ config.warningMax > 0
  . by_cases hmax : config.warningMax > 0 ∨ config.criticalMax > 0
    . simp only [hwarning, hmax, and_self, ↓reduceIte, fields, bound_text, whole_text, whole_uom,
        List.append_nil, List.append_assoc]
      rfl
    . simp only [hwarning, hmax, and_false, ↓reduceIte, fields, bound_text, whole_text, whole_uom,
        List.append_nil, List.append_assoc]
      rfl
  . simp only [hwarning, false_and, ↓reduceIte, fields, whole_text, whole_uom, List.append_nil]
    rfl

end ProcsPlugin

namespace SensorsPlugin

def figures (config : Config) (temperatures : List Double) : List (Item Unit) :=
  (temperatures.zipIdx 1).map fun (temp, i) =>
    limited (str "temp_" ++ natDec i) (decimal 1 [] temp) true (decimal 1 [] config.warningTemp)
      (decimal 1 [] config.criticalTemp)

end SensorsPlugin

namespace UsersPlugin

end UsersPlugin

namespace DnsPlugin

end DnsPlugin

namespace DigPlugin

end DigPlugin

/-- A run of a check that publishes what it has measured on its host, on the way to another or in
the answers of the resolver. -/
inductive Publisher where
  | dig (resolver : Resolver) (config : DigPlugin.Config)
  | disk (statvfs : DiskPlugin.FileSystem) (config : DiskPlugin.Config)
  | dns (resolver : Resolver) (config : DnsPlugin.Config)
  | fileAge (fileSystem : FileAgePlugin.FileSystem) (now : Int) (config : FileAgePlugin.Config)
  | fileCount (fileSystem : FileCountPlugin.FileSystem) (config : FileCountPlugin.Config)
  | fileSize (fileSystem : FileSizePlugin.FileSystem) (config : FileSizePlugin.Config)
  | fping (network : Icmp.Network) (config : FpingPlugin.Config)
  | load (sysinfo : Option LoadPlugin.SysInfo) (config : LoadPlugin.Config)
  | log (system : LogPlugin.System) (config : LogPlugin.Config)
  | nwstat (sysfs : NwstatPlugin.SysFs) (config : NwstatPlugin.Config)
  | overcr (meminfo : Option Bytes) (config : OvercrPlugin.Config)
  | ping (network : Icmp.Network) (config : PingPlugin.Config)
  | procs (procDir : Option (List ProcsPlugin.Entry)) (config : ProcsPlugin.Config)
  | sensors (files : SensorsPlugin.Files) (config : SensorsPlugin.Config)
  | swap (sysinfo : Option SwapPlugin.SysInfo) (config : SwapPlugin.Config)
  | users (entries : List UsersPlugin.Utmp) (config : UsersPlugin.Config)

namespace Publisher

def result : Publisher → PluginResult
  | .dig resolver config => DigPlugin.check resolver config
  | .disk statvfs config => DiskPlugin.check statvfs config
  | .dns resolver config => DnsPlugin.check resolver config
  | .fileAge fileSystem now config => FileAgePlugin.check fileSystem now config
  | .fileCount fileSystem config => FileCountPlugin.check fileSystem config
  | .fileSize fileSystem config => FileSizePlugin.check fileSystem config
  | .fping network config => FpingPlugin.check network config
  | .load sysinfo config => LoadPlugin.check sysinfo config
  | .log system config => LogPlugin.check system config
  | .nwstat sysfs config => NwstatPlugin.check sysfs config
  | .overcr meminfo config => OvercrPlugin.check meminfo config
  | .ping network config => PingPlugin.check network config
  | .procs procDir config => ProcsPlugin.check procDir config
  | .sensors files config => SensorsPlugin.check files config
  | .swap sysinfo config => SwapPlugin.check sysinfo config
  | .users entries config => UsersPlugin.check entries config

end Publisher

end NetmonPlugins

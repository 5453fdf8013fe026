import NetmonPlugins.Plugins.Disk.Impl
import NetmonPlugins.Plugins.Tcp.Impl

/-!
This module contains the command lines on which `main` of `check_tcp` and `check_disk` ends with a
documented exit code.
-/

namespace NetmonPlugins

open CommandLine

namespace TcpPlugin

def numericOptions : List Bytes := [str "-p", str "--port", str "-t", str "--timeout"]

theorem converts_of_numeric (option value : Bytes) (h : option ∈ numericOptions)
    : Converts branch option value ↔ (stoi value).isOk = true := by
  simp only [numericOptions, List.mem_cons, List.not_mem_nil, or_false] at h
  rcases h with rfl | rfl | rfl | rfl
  . rw [converts_of_value rfl, isOk_converted]
  . rw [converts_of_value rfl, isOk_converted]
  . rw [converts_of_value rfl, isOk_converted]
  . rw [converts_of_value rfl, isOk_converted]

theorem converts_of_not_numeric (option value : Bytes) (h : option ∉ numericOptions)
    : Converts branch option value := by
  simp only [numericOptions, List.mem_cons, List.not_mem_nil, or_false, not_or] at h
  intro convert hbranch
  simp only [branch, h, or_self, ↓reduceIte] at hbranch
  split at hbranch
  . contradiction
  . split at hbranch
    . rw [Branch.value.injEq] at hbranch
      rw [← hbranch]
      rfl
    . contradiction

theorem converts_iff (option value : Bytes)
    : Converts branch option value
        ↔
      (option ∈ numericOptions → (stoi value).isOk = true) := by
  by_cases h : option ∈ numericOptions
  . simp only [converts_of_numeric _ _ h, h, true_implies]
  . simp only [converts_of_not_numeric _ _ h, h, false_implies]

theorem documented_main_iff (connectTcp : Network) (args : List Bytes)
    : (main connectTcp args).Documented
        ↔
      ∀ p ∈ values branch args, p.1 ∈ numericOptions → (stoi p.2).isOk = true := by
  unfold main
  rw [CommandLine.documented_main_iff]
  simp only [converts_iff, documented_executePlugin, implies_true, and_true]

end TcpPlugin

namespace DiskPlugin

def IsThreshold (value : Bytes) : Prop :=
  value ≠ []
    ∧ if value.getLast? = some 37 then
        (stod value.dropLast).isOk = true
      else
        (stoll value).isOk = true

theorem isOk_setThreshold (setPercent : Double → Config → Config)
    (setFree : Int → Config → Config) (value : Bytes)
    : (setThreshold setPercent setFree value).isOk = true ↔ IsThreshold value := by
  unfold setThreshold IsThreshold
  cases hlast : value.getLast? with
  | none =>
    rw [List.getLast?_eq_none_iff] at hlast
    simp [hlast, Except.isOk, Except.toBool]
  | some last =>
    have hne : value ≠ [] := by
      intro hnil
      simp [hnil] at hlast
    simp only [hne, ne_eq, not_false_eq_true, true_and, Option.some.injEq]
    split <;> simp [isOk_converted]

theorem converts_iff (option value : Bytes) {convert : Bytes → Except Fault (Config → Config)}
    (h : branch option = .value convert)
    : Converts branch option value ↔ IsThreshold value := by
  rw [converts_of_value h]
  unfold branch at h
  split at h
  . contradiction
  . split at h
    . rw [Branch.value.injEq] at h
      rw [← h, setWarning, isOk_setThreshold]
    . split at h
      . rw [Branch.value.injEq] at h
        rw [← h, setCritical, isOk_setThreshold]
      . split at h <;> contradiction

theorem documented_run_iff (statvfs : FileSystem) (config : Config)
    : (run statvfs config).Documented ↔ limitsFit statvfs config = true := by
  unfold run
  split
  . next hfit => simp only [hfit, documented_executePlugin]
  . next hfit => simp [hfit, Ending.Documented]

theorem documented_main_iff (statvfs : FileSystem) (args : List Bytes)
    : (main statvfs args).Documented
        ↔
      (∀ p ∈ values branch args, IsThreshold p.2)
        ∧ ∀ config, parseArguments args = .ok config → limitsFit statvfs config = true := by
  have hvalues : (∀ p ∈ values branch args, Converts branch p.1 p.2)
      ↔ ∀ p ∈ values branch args, IsThreshold p.2 := by
    apply forall₂_congr
    intro p hp
    obtain ⟨convert, hconvert⟩ := branch_of_mem_values hp
    apply converts_iff _ _ hconvert
  unfold main
  rw [CommandLine.documented_main_iff, hvalues]
  simp only [documented_run_iff, parseArguments]

end DiskPlugin

theorem documented_iff_of_arguments (connectTcp : TcpPlugin.Network)
    (statvfs : DiskPlugin.FileSystem) (args : List Bytes)
    : ((TcpPlugin.main connectTcp args).Documented
          ↔ ∀ p ∈ values TcpPlugin.branch args, p.1 ∈ TcpPlugin.numericOptions
              → (stoi p.2).isOk = true)
        ∧ ((DiskPlugin.main statvfs args).Documented
          ↔ (∀ p ∈ values DiskPlugin.branch args, DiskPlugin.IsThreshold p.2)
            ∧ ∀ config, DiskPlugin.parseArguments args = .ok config
                → DiskPlugin.limitsFit statvfs config = true) := by
  constructor
  . apply TcpPlugin.documented_main_iff
  . apply DiskPlugin.documented_main_iff

/-- A name in place of a port, and an empty threshold. -/
theorem not_documented_of_name
    : TcpPlugin.main (fun _ _ _ => true) [str "-H", str "localhost", str "-p", str "http"]
          = .terminate (.invalidArgument (str "stoi"))
        ∧ DiskPlugin.main (fun _ => .error []) [str "-w", []] = .undefined
        ∧ ¬ (TcpPlugin.main (fun _ _ _ => true)
            [str "-H", str "localhost", str "-p", str "http"]).Documented
        ∧ ¬ (DiskPlugin.main (fun _ => .error []) [str "-w", []]).Documented := by
  decide

end NetmonPlugins

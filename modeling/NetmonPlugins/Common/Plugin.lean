import NetmonPlugins.Cxx.Numeric

/-!
This module contains the plugin interface: the exit codes, the result of a check and how it is
printed.
-/

namespace NetmonPlugins

inductive ExitCode where
  | ok
  | warning
  | critical
  | unknown
  deriving DecidableEq, Repr

structure PluginResult where
  code : ExitCode
  message : Bytes
  perfdata : Bytes := []
  deriving DecidableEq

theorem ite_ne_ok_iff {p : Prop} [Decidable p] {bad other : ExitCode} (hbad : bad ≠ .ok)
    : (if p then bad else other) ≠ .ok ↔ p ∨ other ≠ .ok := by
  split
  . next hp => exact iff_of_true hbad (.inl hp)
  . next hp => simp [hp]

theorem PluginResult.code_ite_ne_ok_iff {p : Prop} [Decidable p] {bad other : PluginResult}
    (hbad : bad.code ≠ .ok)
    : (if p then bad else other).code ≠ .ok ↔ p ∨ other.code ≠ .ok := by
  rw [apply_ite PluginResult.code, ite_ne_ok_iff hbad]

def ExitCode.toInt : ExitCode → Int
  | .ok => 0
  | .warning => 1
  | .critical => 2
  | .unknown => 3

def exitCodeToString : ExitCode → Bytes
  | .ok => str "OK"
  | .warning => str "WARNING"
  | .critical => str "CRITICAL"
  | .unknown => str "UNKNOWN"

def printResult (result : PluginResult) : Bytes :=
  exitCodeToString result.code ++ str ": " ++ result.message
    ++ (if result.perfdata ≠ [] then str " | " ++ result.perfdata else []) ++ str "\n"

def executePlugin (check : Except StdException PluginResult) : Bytes × Int :=
  match check with
  | .ok result => (printResult result, result.code.toInt)
  -- The text of the exception goes to the error stream.
  | .error _ => ([], ExitCode.unknown.toInt)

end NetmonPlugins

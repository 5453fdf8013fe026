import NetmonPlugins.Common.Plugin
import NetmonPlugins.Net.Dialogue

/-!
This module contains what the checks of line protocols share: a response is what one `recv` returns
of it, and the result says whether the service is available.
-/

namespace NetmonPlugins

def readResponse : Dialogue Bytes := .read 1023 (fun _ => true) [] .done

def sendCommand (command : Bytes) : Dialogue Bool := .send (command ++ crlf) .done

def hostnameMissing : PluginResult :=
  { code := .unknown, message := str "Hostname must be specified" }

def availability (service hostname : Bytes) (port : Int) (doing : Bytes) (available : Bool)
    : PluginResult :=
  let code : ExitCode := if available then .ok else .critical
  { code := code
    message := service ++ str " " ++ exitCodeToString code ++ str " - " ++ hostname ++ str ":"
      ++ intDec port ++ (if available then str " is " else str " is not ") ++ doing }

def checkService (service hostname : Bytes) (port : Int) (check : Dialogue Bool)
    : Dialogue PluginResult := do
  if hostname = [] then
    return hostnameMissing
  let available ← check
  return availability service hostname port (str "accepting connections") available

/-- `response[0] == c` for a response that is not empty. -/
def startsWith (response : Bytes) (c : Char) : Bool := response.head? = some c.toUInt8

structure Line where
  text : Bytes
  newline_notMem : (10 : UInt8) ∉ text
  length_le : text.length + 2 ≤ 1023

def Line.bytes (line : Line) : Bytes := line.text ++ crlf

/-- What the reads return when each line is received whole. -/
def received (lines : List Line) : List Bytes := lines.map fun line => cstr line.bytes

theorem startsWith_nil (c : Char) : startsWith [] c = false := rfl

theorem head?_cstr (buffer : Bytes) (b : UInt8) (hb : b ≠ 0)
    : (cstr buffer).head? = some b ↔ buffer.head? = some b := by
  unfold cstr
  cases buffer with
  | nil => rfl
  | cons a rest =>
    rw [List.takeWhile_cons]
    split
    . rfl
    . next ha =>
      simp only [ne_eq, decide_not, Bool.not_eq_eq_eq_not, Bool.not_true, decide_eq_false_iff_not,
        not_not] at ha
      simpa [ha] using Ne.symm hb

theorem startsWith_cstr (buffer : Bytes) (c : Char) (hc : c.toUInt8 ≠ 0)
    : startsWith (cstr buffer) c = startsWith buffer c := by
  unfold startsWith
  simp only [head?_cstr _ _ hc]

theorem startsWith_take (bytes : Bytes) (n : Nat) (hn : 0 < n) (c : Char)
    : startsWith (bytes.take n) c = startsWith bytes c := by
  unfold startsWith
  rw [List.head?_take, if_neg (by omega)]

end NetmonPlugins

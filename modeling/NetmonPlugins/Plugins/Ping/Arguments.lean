import NetmonPlugins.Common.CommandLine
import NetmonPlugins.Cxx.Decimal
import NetmonPlugins.Plugins.Ping.Impl

/-!
This module contains the command line of `check_ping` and determines what it makes of the one that
the documentation shows, where `-c` stands for the critical thresholds.
-/

namespace NetmonPlugins
namespace PingPlugin

open CommandLine Icmp

def setThresholds (setRTA setPL : Double → Config → Config) (threshold : Bytes)
    : Except Fault (Config → Config) :=
  match find threshold (str ",") 0 with
  | some comma => do
    let storeRTA ← converted (stod (substr threshold 0 comma)) setRTA
    let storePL ← converted (stod (threshold.drop (comma + 1))) setPL
    return storePL ∘ storeRTA
  | none => converted (stod threshold) setRTA

def setWarning : Bytes → Except Fault (Config → Config) :=
  setThresholds (fun rta config => { config with warningRTA := rta })
    fun pl config => { config with warningPL := pl }

def setCritical : Bytes → Except Fault (Config → Config) :=
  setThresholds (fun rta config => { config with criticalRTA := rta })
    fun pl config => { config with criticalPL := pl }

def branch (arg : Bytes) : Branch Config :=
  if arg = str "-h" ∨ arg = str "--help" then
    .help
  else if arg = str "-H" ∨ arg = str "--hostname" then
    .value fun value => .ok fun config => { config with hostname := value }
  else if arg = str "-c" ∨ arg = str "--count" then
    .value fun value =>
      converted (stoi value) fun count config => { config with packetCount := count }
  else if arg = str "-t" ∨ arg = str "--timeout" then
    .value fun value =>
      converted (stoi value) fun timeout config => { config with timeoutSeconds := timeout }
  else if arg = str "-w" ∨ arg = str "--warning" then
    .value setWarning
  else if arg = str "--critical" then
    .value setCritical
  else
    .set id

def parseArguments (args : List Bytes) : Except Stop Config := scan branch {} args

theorem keeps_setThresholds {setRTA setPL : Double → Config → Config} {read : Config → α}
    (hrta : ∀ value config, read (setRTA value config) = read config)
    (hpl : ∀ value config, read (setPL value config) = read config)
    : Keeps read (.value (setThresholds setRTA setPL)) := by
  intro threshold f hf config
  unfold setThresholds at hf
  cases hcomma : find threshold (str ",") 0 with
  | none =>
    simp only [hcomma] at hf
    obtain ⟨value, -, rfl⟩ := converted_eq_ok hf
    exact hrta value config
  | some comma =>
    simp only [hcomma] at hf
    obtain ⟨storeRTA, hstoreRTA, hf⟩ := eq_ok_of_bind hf
    obtain ⟨storePL, hstorePL, hf⟩ := eq_ok_of_bind hf
    obtain ⟨rta, -, rfl⟩ := converted_eq_ok hstoreRTA
    obtain ⟨pl, -, rfl⟩ := converted_eq_ok hstorePL
    rw [← Except.ok.inj hf, Function.comp_apply, hpl, hrta]

/-- Only `--critical` sets a critical threshold. -/
theorem keeps_critical {option : Bytes} (h : option ≠ str "--critical")
    : Keeps (fun config : Config => (config.criticalRTA, config.criticalPL)) (branch option) := by
  unfold branch
  rw [if_neg h]
  split
  . trivial
  . split
    . rintro value _ ⟨⟩ config
      rfl
    . split
      . exact keeps_converted fun _ _ => rfl
      . split
        . exact keeps_converted fun _ _ => rfl
        . split
          . exact keeps_setThresholds (fun _ _ => rfl) fun _ _ => rfl
          . exact fun _ => rfl

theorem critical_of_parseArguments {args : List Bytes}
    (h : ∀ entry ∈ entries branch args, entry.1 ≠ str "--critical") {config : Config}
    (hparse : parseArguments args = .ok config)
    : config.criticalRTA = .fin (-1) ∧ config.criticalPL = .fin (-1) := by
  unfold parseArguments at hparse
  rw [scan_eq_foldlM] at hparse
  have hread := read_foldlM_of_keeps (fun entry hentry => keeps_critical (h entry hentry)) hparse
  rwa [Prod.mk.injEq] at hread

/-- `check_ping -H host -w a,b% -c c,d%` -/
def documented (host : Bytes) (a b c d : Bytes) : List Bytes :=
  [str "-H", host, str "-w", a ++ str "," ++ b ++ str "%",
    str "-c", c ++ str "," ++ d ++ str "%"]

theorem entries_documented (host a b c d : Bytes)
    : entries branch (documented host a b c d)
        =
      [(str "-H", some host), (str "-w", some (a ++ str "," ++ b ++ str "%")),
        (str "-c", some (c ++ str "," ++ d ++ str "%"))] := rfl

theorem critical_of_documented {host a b c d : Bytes} {config : Config}
    (hparse : parseArguments (documented host a b c d) = .ok config)
    : config.criticalRTA = .fin (-1) ∧ config.criticalPL = .fin (-1) := by
  apply critical_of_parseArguments _ hparse
  rw [entries_documented]
  simp only [List.forall_mem_cons, List.not_mem_nil, false_imp_iff, implies_true, and_true]
  decide

/-- No loss is critical. -/
theorem not_critical_of_documented {host a b c d : Bytes} {config : Config}
    (hparse : parseArguments (documented host a b c d) = .ok config) (result : PingResult)
    : (checkThresholds config result).1 = false := by
  obtain ⟨hrta, hpl⟩ := critical_of_documented hparse
  have hunset : ¬ (Double.fin (-1) > 0) := by decide +kernel
  unfold checkThresholds
  rw [hrta, hpl, if_neg (fun h => hunset h.1), if_neg (fun h => hunset h.1)]
  split
  . rfl
  . split
    . rfl
    . rfl

/-- The critical thresholds are converted to the number of packets. -/
theorem packetCount_of_documented {host a b c d : Bytes} {config : Config}
    (hparse : parseArguments (documented host a b c d) = .ok config)
    : stoi (c ++ str "," ++ d ++ str "%") = .ok config.packetCount := by
  unfold parseArguments at hparse
  rw [scan_eq_foldlM, entries_documented] at hparse
  obtain ⟨_, -, hparse⟩ := eq_ok_of_bind hparse
  obtain ⟨warned, -, hparse⟩ := eq_ok_of_bind hparse
  obtain ⟨counted, hcount, hparse⟩ := eq_ok_of_bind hparse
  obtain ⟨count, hstoi, rfl⟩ := follow_converted rfl hcount
  rw [hstoi, ← Except.ok.inj hparse]

/-- What the documentation says of the command line, for the numbers that are written there. -/
structure AsDocumented (config : Config) (a b c d : ℚ) : Prop where
  warningRTA : config.warningRTA = .fin a
  warningPL : config.warningPL = .fin b
  criticalRTA : config.criticalRTA = .fin c
  criticalPL : config.criticalPL = .fin d
  packetCount : config.packetCount = ({} : Config).packetCount
  critical : ∀ result, .fin d ≤ result.packetLoss → (checkThresholds config result).1 = true

theorem stoi_minus {text : Bytes} {n : Int} (h : stoi (45 :: text) = .ok n) : n ≤ 0 := by
  have hsign : takeSign (List.dropWhile isSpace (45 :: text)) = (true, text) := rfl
  unfold stoi stoInteger at h
  rw [hsign] at h
  simp only [if_true] at h
  split at h
  . contradiction
  . split at h
    . rw [← Except.ok.inj h]
      omega
    . contradiction

theorem sign_of_value {d : Decimal} (h : d.value < 0) : d.sign = some true := by
  have hmagnitude : 0 ≤ d.magnitude := by
    unfold Decimal.magnitude
    exact mul_nonneg (Nat.cast_nonneg _) (zpow_nonneg (by norm_num) _)
  unfold Decimal.value at h
  split at h
  . assumption
  . linarith

/-- Whatever the numbers are, the documented command line does not do what is said of it. -/
theorem not_asDocumented (host : Bytes) (a b c d : Decimal)
    : ¬ ∃ config, parseArguments (documented host a.text b.text c.text d.text) = .ok config
        ∧ AsDocumented config a.value b.value c.value d.value := by
  rintro ⟨config, hparse, h⟩
  have hcritical : c.value = -1 := by
    have hunset := (critical_of_documented hparse).1
    rw [h.criticalRTA, Double.fin.injEq] at hunset
    exact hunset
  have hsign : c.sign = some true := sign_of_value (by rw [hcritical]; norm_num)
  -- The only number that is stored has a sign, and so does the number of packets.
  have hcount := packetCount_of_documented hparse
  have htext : c.text = 45 :: c.unsignedText := by
    unfold Decimal.text
    rw [hsign]
    rfl
  rw [htext] at hcount
  have hle := stoi_minus hcount
  rw [h.packetCount] at hle
  contradiction

def documentedExample : List Bytes :=
  documented (str "8.8.8.8") (str "100") (str "20") (str "200") (str "50")

theorem parseArguments_documentedExample
    : ∃ config, parseArguments documentedExample = .ok config
        ∧ config.packetCount = 200
        ∧ config.criticalRTA = .fin (-1)
        ∧ config.criticalPL = .fin (-1)
        ∧ ∀ result, (checkThresholds config result).1 = false := by
  have hok : (parseArguments documentedExample).isOk = true := by decide +kernel
  cases hparse : parseArguments documentedExample with
  | error stop =>
    rw [hparse] at hok
    contradiction
  | ok config =>
    have hcount : stoi (str "200,50%") = .ok config.packetCount := packetCount_of_documented hparse
    obtain ⟨hrta, hpl⟩ := critical_of_documented hparse
    exact ⟨config, rfl, (Except.ok.inj hcount).symm, hrta, hpl,
      not_critical_of_documented hparse⟩

end PingPlugin
end NetmonPlugins

import NetmonPlugins.Common.Severity
import NetmonPlugins.Cxx.Integer
import NetmonPlugins.Plugins.Procs.Absence

/-!
This module determines when `check_procs` judges a count by the ranges that its thresholds mean.
-/

namespace NetmonPlugins
namespace ProcsPlugin

open CommandLine

/-- A threshold of the form `max` or `min:max`. -/
structure Range where
  min : Option Numeral
  max : Numeral

namespace Range

def text (range : Range) : Bytes :=
  match range.min with
  | some min => min.digits ++ (str ":" ++ range.max.digits)
  | none => range.max.digits

def IsOutside (range : Range) (count : Int) : Prop :=
  (∃ min ∈ range.min, count < min.value) ∨ count > range.max.value

instance (range : Range) (count : Int) : Decidable (range.IsOutside count) :=
  inferInstanceAs (Decidable (_ ∨ _))

/-- The bounds are an `int` each. -/
def Fits (range : Range) : Prop :=
  (∀ min ∈ range.min, min.value < 2 ^ 31) ∧ range.max.value < 2 ^ 31

instance (range : Range) : Decidable range.Fits := inferInstanceAs (Decidable (_ ∧ _))

/-- The count is outside only for a maximum of zero. -/
def Allows (range : Range) (count : Int) : Prop :=
  range.max.value = 0 ∧ 0 < count ∧ ∀ min ∈ range.min, (min.value : Int) ≤ count

instance (range : Range) (count : Int) : Decidable (range.Allows count) :=
  inferInstanceAs (Decidable (_ ∧ _ ∧ _))

theorem colon_notMem (n : Numeral) : (58 : UInt8) ∉ n.digits := by
  intro hcolon
  have hdigit := n.isDigit_digits 58 hcolon
  contradiction

theorem find_colon_of_none {range : Range} (h : range.min = none)
    : find range.text (str ":") 0 = none := by
  unfold text
  rw [h, find_eq_none_iff]
  intro j _ _ hstart
  apply colon_notMem range.max
  exact List.mem_of_mem_drop (hstart.subset List.mem_cons_self)

theorem find_colon_of_some {range : Range} {min : Numeral} (h : range.min = some min)
    : find range.text (str ":") 0 = some min.digits.length := by
  unfold text
  rw [h, find_zero]
  show findFrom [58] (min.digits ++ (str ":" ++ range.max.digits)) 0 = _
  rw [findFrom_append_of_notMem _ _ _ _ _ (colon_notMem min), Nat.zero_add]
  apply findFrom_of_prefix
  apply List.prefix_append

theorem text_of_some {range : Range} {min : Numeral} (h : range.min = some min)
    : substr range.text 0 min.digits.length = min.digits
        ∧ range.text.drop (min.digits.length + 1) = range.max.digits := by
  unfold text substr
  rw [h]
  constructor
  . rw [List.drop_zero, List.take_left]
  . rw [← List.drop_drop, List.drop_left]
    rfl

end Range

/-- What `setWarning` and `setCritical` have in common. -/
def readBounds (threshold : Bytes) : Except StdException (Option Int × Int) :=
  match find threshold (str ":") 0 with
  | some colon => do
    let min ← stoi (substr threshold 0 colon)
    let max ← stoi (threshold.drop (colon + 1))
    .ok (some min, max)
  | none => do
    let max ← stoi threshold
    .ok (none, max)

theorem setWarning_eq (threshold : Bytes)
    : setWarning threshold
        =
      converted (readBounds threshold) fun bounds config =>
        { config with
          warningMin := bounds.1.getD config.warningMin
          warningMax := bounds.2 } := by
  unfold setWarning readBounds
  cases find threshold (str ":") 0 with
  | none => cases stoi threshold <;> rfl
  | some colon =>
    dsimp only
    cases stoi (substr threshold 0 colon) with
    | error e => rfl
    | ok min => cases stoi (threshold.drop (colon + 1)) <;> rfl

theorem setCritical_eq (threshold : Bytes)
    : setCritical threshold
        =
      converted (readBounds threshold) fun bounds config =>
        { config with
          criticalMin := bounds.1.getD config.criticalMin
          criticalMax := bounds.2 } := by
  unfold setCritical readBounds
  cases find threshold (str ":") 0 with
  | none => cases stoi threshold <;> rfl
  | some colon =>
    dsimp only
    cases stoi (substr threshold 0 colon) with
    | error e => rfl
    | ok min => cases stoi (threshold.drop (colon + 1)) <;> rfl

theorem readBounds_text (range : Range)
    : readBounds range.text
        =
      (match range.min with
        | some min => do
          let lower ← stoi min.digits
          let upper ← stoi range.max.digits
          .ok (some lower, upper)
        | none => do
          let upper ← stoi range.max.digits
          .ok (none, upper)) := by
  unfold readBounds
  cases hmin : range.min with
  | none =>
    have htext : range.text = range.max.digits := by
      unfold Range.text
      rw [hmin]
    rw [Range.find_colon_of_none hmin, htext]
  | some min =>
    obtain ⟨hbefore, hbehind⟩ := Range.text_of_some hmin
    rw [Range.find_colon_of_some hmin]
    dsimp only
    rw [hbefore, hbehind]

theorem readBounds_of_fits {range : Range} (h : range.Fits)
    : readBounds range.text = .ok (range.min.map fun min => min.value, range.max.value) := by
  rw [readBounds_text, range.max.stoi_digits, if_pos h.2]
  cases hmin : range.min with
  | none => rfl
  | some min =>
    dsimp only
    rw [min.stoi_digits, if_pos (h.1 min hmin)]
    rfl

theorem readBounds_of_not_fits {range : Range} (h : ¬ range.Fits)
    : ∃ e, readBounds range.text = .error e := by
  unfold Range.Fits at h
  rw [readBounds_text, range.max.stoi_digits]
  cases hmin : range.min with
  | none =>
    rw [if_neg fun hmax => h ⟨by simp [hmin], hmax⟩]
    exact ⟨_, rfl⟩
  | some min =>
    dsimp only
    rw [min.stoi_digits]
    by_cases hlt : min.value < 2 ^ 31
    . rw [if_pos hlt, if_neg fun hmax => h ⟨by simpa [hmin] using hlt, hmax⟩]
      exact ⟨_, rfl⟩
    . rw [if_neg hlt]
      exact ⟨_, rfl⟩

/-- The command line with the two thresholds and the filter, if there is one. -/
def arguments (warning critical : Range) (filter : Option Bytes) : List Bytes :=
  [str "-w", warning.text, str "-c", critical.text]
    ++ filter.elim [] fun name => [str "-a", name]

def configOf (warning critical : Range) (filter : Option Bytes) : Config where
  warningMin := (warning.min.map fun min => (min.value : Int)).getD (-1)
  criticalMin := (critical.min.map fun min => (min.value : Int)).getD (-1)
  warningMax := warning.max.value
  criticalMax := critical.max.value
  processName := filter.getD []

theorem parseArguments_of_fits {warning critical : Range} (hwarning : warning.Fits)
    (hcritical : critical.Fits) (filter : Option Bytes)
    : parseArguments (arguments warning critical filter)
        =
      .ok (configOf warning critical filter) := by
  have hw : branch (str "-w") = .value setWarning := rfl
  have hc : branch (str "-c") = .value setCritical := rfl
  unfold parseArguments arguments
  cases filter with
  | none =>
    simp only [Option.elim_none, List.append_nil, scan, hw, hc, setWarning_eq, setCritical_eq,
      readBounds_of_fits hwarning, readBounds_of_fits hcritical, converted]
    rfl
  | some name =>
    have ha : branch (str "-a") = .value fun name =>
        .ok fun config => { config with processName := name } := rfl
    simp only [Option.elim_some, List.cons_append, List.nil_append, scan, hw, hc, ha,
      setWarning_eq, setCritical_eq, readBounds_of_fits hwarning, readBounds_of_fits hcritical,
      converted]
    rfl

theorem parseArguments_of_not_fits {warning critical : Range}
    (h : ¬ (warning.Fits ∧ critical.Fits)) (filter : Option Bytes)
    : ∃ e, parseArguments (arguments warning critical filter) = .error (.fault (.exception e)) := by
  have hw : branch (str "-w") = .value setWarning := rfl
  have hc : branch (str "-c") = .value setCritical := rfl
  unfold parseArguments arguments
  by_cases hwarning : warning.Fits
  . obtain ⟨e, he⟩ := readBounds_of_not_fits fun hcritical => h ⟨hwarning, hcritical⟩
    simp only [List.cons_append, List.nil_append, scan, hw, hc, setWarning_eq, setCritical_eq,
      readBounds_of_fits hwarning, he, converted]
    exact ⟨e, rfl⟩
  . obtain ⟨e, he⟩ := readBounds_of_not_fits hwarning
    simp only [List.cons_append, List.nil_append, scan, hw, setWarning_eq, he, converted]
    exact ⟨e, rfl⟩

/-- The code by the ranges that the thresholds mean. -/
def judge (warning critical : Range) (count : Int) : ExitCode :=
  if critical.IsOutside count then
    .critical
  else if warning.IsOutside count then
    .warning
  else
    .ok

/-- The two tests of a range by the check. -/
def Exceeds (min max count : Int) : Prop := (min > 0 ∧ count < min) ∨ (max > 0 ∧ count > max)

instance (min max count : Int) : Decidable (Exceeds min max count) :=
  inferInstanceAs (Decidable (_ ∨ _))

theorem checkThresholds_eq_ladder (config : Config) (count : Int)
    : (checkThresholds config count).1
        =
      ladder (Exceeds config.criticalMin config.criticalMax count)
        (Exceeds config.warningMin config.warningMax count) := by
  have hor : ∀ {min max : Int}, Exceeds min max count
      ↔ (min > 0 ∧ count < min) ∨ (max > 0 ∧ count > max) := Iff.rfl
  unfold checkThresholds ladder
  simp only [hor, apply_ite Prod.fst, ite_or]

theorem Range.isOutside_of_allows {range : Range} {count : Int} (h : range.Allows count)
    : range.IsOutside count := by
  right
  rw [h.1]
  exact_mod_cast h.2.1

theorem exceeds_iff (range : Range) {count : Int} (hcount : 0 ≤ count)
    : Exceeds ((range.min.map fun min => (min.value : Int)).getD (-1)) range.max.value count
        ↔
      range.IsOutside count ∧ ¬ range.Allows count := by
  unfold Exceeds Range.IsOutside Range.Allows
  cases range.min with
  | none =>
    simp only [Option.map_none, Option.getD_none, Option.mem_def, reduceCtorEq, false_and,
      exists_false, false_or, IsEmpty.forall_iff, implies_true, and_true]
    omega
  | some min =>
    simp only [Option.map_some, Option.getD_some, Option.mem_def, Option.some.injEq,
      exists_eq_left', forall_eq']
    omega

/-- The code is that of the ranges unless the check takes a maximum of zero for none. -/
theorem checkThresholds_eq_judge_iff (warning critical : Range) (filter : Option Bytes)
    {count : Int} (hcount : 0 ≤ count)
    : (checkThresholds (configOf warning critical filter) count).1 = judge warning critical count
        ↔
      ¬ critical.Allows count ∧ (warning.Allows count → critical.IsOutside count) := by
  have hc : Exceeds (configOf warning critical filter).criticalMin
      (configOf warning critical filter).criticalMax count
        ↔ critical.IsOutside count ∧ ¬ critical.Allows count := exceeds_iff critical hcount
  have hw : Exceeds (configOf warning critical filter).warningMin
      (configOf warning critical filter).warningMax count
        ↔ warning.IsOutside count ∧ ¬ warning.Allows count := exceeds_iff warning hcount
  rw [checkThresholds_eq_ladder, ladder_congr hc hw]
  unfold judge ladder
  by_cases hcritical : critical.Allows count
  . have houtside := Range.isOutside_of_allows hcritical
    simp only [hcritical, houtside, not_true_eq_false, and_false, if_false, if_true, false_and,
      iff_false]
    split <;> simp
  . by_cases houtside : critical.IsOutside count
    . simp [hcritical, houtside]
    . by_cases hwarning : warning.Allows count
      . have houtside' := Range.isOutside_of_allows hwarning
        simp [hcritical, houtside, hwarning, houtside']
      . simp [hcritical, houtside, hwarning]

theorem countProcesses_nonneg (procDir : Option (List Entry)) (processName : Bytes)
    : 0 ≤ countProcesses procDir processName := by
  cases procDir with
  | none => exact le_refl 0
  | some entries =>
    show 0 ≤ countEntries processName 0 entries
    rw [countEntries_eq]
    omega

/--
The check judges by the ranges if and only if the bounds are an `int` each and no maximum of zero
matters that the count exceeds.
-/
theorem range_judged_iff (warning critical : Range) (filter : Option Bytes)
    (procDir : Option (List Entry))
    : (∃ config, parseArguments (arguments warning critical filter) = .ok config
          ∧ (check procDir config).code
            = judge warning critical (countProcesses procDir config.processName))
        ↔
      (warning.Fits ∧ critical.Fits)
        ∧ ¬ critical.Allows (countProcesses procDir (filter.getD []))
        ∧ (warning.Allows (countProcesses procDir (filter.getD []))
          → critical.IsOutside (countProcesses procDir (filter.getD []))) := by
  have hcount := countProcesses_nonneg procDir (filter.getD [])
  rw [← checkThresholds_eq_judge_iff warning critical filter hcount]
  by_cases hfits : warning.Fits ∧ critical.Fits
  . rw [and_iff_right hfits, parseArguments_of_fits hfits.1 hfits.2]
    simp only [Except.ok.injEq, exists_eq_left']
    exact Iff.rfl
  . obtain ⟨e, he⟩ := parseArguments_of_not_fits hfits filter
    rw [he]
    exact iff_of_false (by simp) fun h => hfits h.1

def process (name : String) : Entry where
  d_name := str "42"
  cmdline := str name
  opens := true

theorem range_judged_of_five
    : ∃ config, parseArguments
          (arguments ⟨some (.ofNat 5), .ofNat 20⟩ ⟨none, .ofNat 50⟩ none) = .ok config
        ∧ (check (some [process "init"]) config).code
          = judge ⟨some (.ofNat 5), .ofNat 20⟩ ⟨none, .ofNat 50⟩
            (countProcesses (some [process "init"]) config.processName) := by
  apply (range_judged_iff _ _ none (some [process "init"])).mpr
  decide +kernel

/-- `-c 0` is to say that no process may run, and one that runs is OK. -/
theorem range_ignored_of_zero
    : arguments ⟨none, .ofNat 0⟩ ⟨none, .ofNat 0⟩ (some (str "httpd"))
          = [str "-w", str "0", str "-c", str "0", str "-a", str "httpd"]
        ∧
      parseArguments [str "-w", str "0", str "-c", str "0", str "-a", str "httpd"]
          = .ok { warningMax := 0, criticalMax := 0, processName := str "httpd" }
        ∧
      countProcesses (some [process "httpd"]) (str "httpd") = 1
        ∧
      (check (some [process "httpd"])
          { warningMax := 0, criticalMax := 0, processName := str "httpd" }).code = .ok := by
  refine ⟨rfl, rfl, by decide +kernel, by decide +kernel⟩

end ProcsPlugin
end NetmonPlugins

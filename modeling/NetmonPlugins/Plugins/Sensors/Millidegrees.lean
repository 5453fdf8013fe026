import NetmonPlugins.Common.Severity
import NetmonPlugins.Cxx.Decimal
import NetmonPlugins.Plugins.Sensors.Impl

/-!
This module determines for which inputs in millidegrees `check_sensors` decides by the hottest one.
It takes up to 1000 millidegrees for degrees, and it leaves out what is below zero.
-/

namespace NetmonPlugins

/-- The second of two conditions each does not matter. -/
theorem ladder_or_eq_iff {critical critical' warning warning' : Prop} [Decidable critical]
    [Decidable critical'] [Decidable warning] [Decidable warning']
    : ladder (critical ∨ critical') (warning ∨ warning') = ladder critical warning
        ↔
      critical ∨ ¬ critical' ∧ (warning ∨ ¬ warning') := by
  unfold ladder
  by_cases hc : critical <;> by_cases hc' : critical' <;> by_cases hw : warning <;>
    by_cases hw' : warning' <;> simp [hc, hc', hw, hw']

theorem ladder_ne_unknown (critical warning : Prop) [Decidable critical] [Decidable warning]
    : ladder critical warning ≠ .unknown := by
  unfold ladder
  split
  . simp
  . split <;> simp

namespace SensorsPlugin

/-- The file holds the number as a word of its own. -/
def Reports (files : Files) (path : Bytes) (m : Int) : Prop :=
  ∃ rest, files path = some (intDec m ++ rest) ∧ ∀ b ∈ rest.head?, isSpace b = true

/-- What `readTemperature` makes of `m` millidegrees. -/
def degrees (m : Int) : ℚ := if 1000 < m then m / 1000 else m

theorem not_isSpace_of_mem_intDec {m : Int} {b : UInt8} (h : b ∈ intDec m) : isSpace b = false := by
  unfold intDec at h
  split at h
  . rw [List.mem_append] at h
    cases h with
    | inl h =>
      have hb : b = 45 := by simpa [str] using h
      rw [hb]
      rfl
    | inr h => exact isSpace_of_isDigit (isDigit_of_mem_natDec h)
  . exact isSpace_of_isDigit (isDigit_of_mem_natDec h)

theorem intDec_ne_nil (m : Int) : intDec m ≠ [] := by
  unfold intDec
  split
  . simp [str]
  . exact natDec_ne_nil _

theorem extractWord_intDec (m : Int) {rest : Bytes} (h : ∀ b ∈ rest.head?, isSpace b = true)
    : extractWord (intDec m ++ rest) = intDec m := by
  have hhead : ∀ b ∈ (intDec m ++ rest).head?, isSpace b = false := by
    intro b hb
    rw [List.head?_append_of_ne_nil _ (intDec_ne_nil m)] at hb
    exact not_isSpace_of_mem_intDec (List.mem_of_mem_head? hb)
  have hdrop : (intDec m ++ rest).dropWhile isSpace = intDec m ++ rest :=
    dropWhile_append_of_head (List.forall_mem_nil _) hhead
  unfold extractWord
  rw [hdrop]
  apply takeWhile_append_of_head
  . intro b hb
    rw [not_isSpace_of_mem_intDec hb]
    rfl
  . intro b hb
    rw [h b hb]
    rfl

theorem readTemperature_eq {files : Files} {path : Bytes} {m : Int} (h : Reports files path m)
    (hfits : m.natAbs < 2 ^ 64)
    : readTemperature files path = .fin (degrees m) := by
  obtain ⟨rest, hfile, hrest⟩ := h
  unfold readTemperature degrees
  simp only [hfile, extractWord_intDec m hrest, intDec_ne_nil, if_false, stod_intDec hfits]
  have hgt : (Double.fin m > 1000) ↔ 1000 < m := by
    show Double.fin ((1000 : Nat) : ℚ) < .fin m ↔ _
    rw [Double.fin_lt_fin]
    norm_cast
  simp only [hgt]
  split
  . exact Double.fin_div_fin _ _ (by norm_num)
  . rfl

theorem degrees_nonneg_iff (m : Int) : 0 ≤ degrees m ↔ 0 ≤ m := by
  unfold degrees
  split
  . next h =>
    have hm : (0 : ℚ) < m := by exact_mod_cast (by omega : 0 < m)
    exact iff_of_true (by positivity) (by omega)
  . exact Int.cast_nonneg_iff

theorem le_maxElement_iff {threshold largest : Double} {rest : List Double}
    (h : ∀ temp ∈ largest :: rest, temp ≠ .nan)
    : threshold ≤ maxElement largest rest ↔ ∃ temp ∈ largest :: rest, threshold ≤ temp := by
  unfold maxElement
  induction rest generalizing largest with
  | nil => simp
  | cons temp rest ih =>
    simp only [List.forall_mem_cons] at h
    obtain ⟨hlargest, htemp, hrest⟩ := h
    rw [List.foldl_cons]
    split
    . next hlt =>
      rw [ih (List.forall_mem_cons.mpr ⟨htemp, hrest⟩)]
      simp only [List.exists_mem_cons_iff]
      constructor
      . exact .inr
      . rintro (hle | hor)
        . exact .inl (Double.le_trans hle (Double.le_of_lt hlt))
        . exact hor
    . next hlt =>
      have hle : temp ≤ largest := Double.le_of_not_lt hlargest htemp hlt
      rw [ih (List.forall_mem_cons.mpr ⟨hlargest, hrest⟩)]
      simp only [List.exists_mem_cons_iff]
      constructor
      . rintro (hlargest | hrest)
        . exact .inl hlargest
        . exact .inr (.inr hrest)
      . rintro (hlargest | htemp | hrest)
        . exact .inl hlargest
        . exact .inl (Double.le_trans htemp hle)
        . exact .inr hrest

def temperatures (files : Files) : List Double :=
  ((findSensorDevices files).map (readTemperature files)).filter fun temp => temp ≥ 0

theorem ne_nan_of_mem_temperatures {files : Files} {temp : Double} (h : temp ∈ temperatures files)
    : temp ≠ .nan := by
  rintro rfl
  simp [temperatures] at h

theorem code_check (files : Files) (config : Config)
    : (check files config).code
        =
      if temperatures files = [] then
        .unknown
      else
        ladder (∃ temp ∈ temperatures files, config.criticalTemp ≤ temp)
          (∃ temp ∈ temperatures files, config.warningTemp ≤ temp) := by
  have hnan : ∀ temp ∈ temperatures files, temp ≠ .nan := fun _ => ne_nan_of_mem_temperatures
  unfold check
  by_cases hdevices : findSensorDevices files = []
  . simp [hdevices, temperatures]
  . rw [if_neg hdevices]
    unfold temperatures at hnan ⊢
    split
    . next htemps => rw [htemps, if_pos rfl]
    . next temp rest htemps =>
      rw [htemps] at hnan ⊢
      simp only [ladder, ← le_maxElement_iff hnan, reduceCtorEq, if_false]
      split
      . rfl
      . split
        . rfl
        . rfl

/-- The devices that are found report these numbers, as integers of up to 64 bits. -/
structure Inputs (files : Files) (readings : List Int) : Prop where
  reports : List.Forall₂ (Reports files) (findSensorDevices files) readings
  fits : ∀ m ∈ readings, m.natAbs < 2 ^ 64

section

variable {files : Files} {readings : List Int} (inputs : Inputs files readings)
include inputs

theorem map_readTemperature
    : (findSensorDevices files).map (readTemperature files)
        =
      readings.map fun m => .fin (degrees m) := by
  obtain ⟨hreports, hfits⟩ := inputs
  generalize findSensorDevices files = devices at hreports ⊢
  induction hreports with
  | nil => rfl
  | cons h _ ih =>
    rw [List.forall_mem_cons] at hfits
    rw [List.map_cons, List.map_cons, readTemperature_eq h hfits.1, ih hfits.2]

theorem exists_mem_temperatures_iff (p : Double → Prop)
    : (∃ temp ∈ temperatures files, p temp) ↔ ∃ m ∈ readings, 0 ≤ m ∧ p (.fin (degrees m)) := by
  have hnonneg (m : Int) : Double.fin (degrees m) ≥ 0 ↔ 0 ≤ m := by
    rw [← degrees_nonneg_iff m]
    exact Double.fin_le_fin _ _
  unfold temperatures
  rw [map_readTemperature inputs]
  simp only [List.mem_filter, List.mem_map, decide_eq_true_eq]
  constructor
  . rintro ⟨_, ⟨⟨m, hm, rfl⟩, hpos⟩, hp⟩
    exact ⟨m, hm, (hnonneg m).mp hpos, hp⟩
  . rintro ⟨m, hm, hpos, hp⟩
    exact ⟨_, ⟨⟨m, hm, rfl⟩, (hnonneg m).mpr hpos⟩, hp⟩

end

/-- An input of up to 1000 millidegrees that reaches the threshold when it is taken for degrees. -/
def Misread (readings : List Int) (threshold : Double) : Prop :=
  ∃ m ∈ readings, 0 ≤ m ∧ m ≤ 1000 ∧ threshold ≤ .fin m

instance (readings : List Int) (threshold : Double) : Decidable (Misread readings threshold) :=
  inferInstanceAs (Decidable (∃ m ∈ readings, _))

/-- A threshold is reached by the hottest input, or by one that is misread. -/
theorem reached_iff {readings : List Int} {hottest : Int} (hmem : hottest ∈ readings)
    (hmax : ∀ m ∈ readings, m ≤ hottest) (hpos : 0 ≤ hottest) (threshold : Double)
    : (∃ m ∈ readings, 0 ≤ m ∧ threshold ≤ .fin (degrees m))
        ↔
      threshold ≤ .fin (hottest / 1000) ∨ Misread readings threshold := by
  constructor
  . rintro ⟨m, hm, hm0, hle⟩
    unfold degrees at hle
    split at hle
    . left
      apply Double.le_trans hle
      rw [Double.fin_le_fin]
      have hcast : (m : ℚ) ≤ hottest := by exact_mod_cast hmax m hm
      linarith
    . exact .inr ⟨m, hm, hm0, by omega, hle⟩
  . rintro (hle | ⟨m, hm, hm0, hm1000, hle⟩)
    . refine ⟨hottest, hmem, hpos, Double.le_trans hle ?_⟩
      have hcast : (0 : ℚ) ≤ hottest := by exact_mod_cast hpos
      rw [Double.fin_le_fin]
      unfold degrees
      split
      . rfl
      . linarith
    . refine ⟨m, hm, hm0, ?_⟩
      unfold degrees
      rwa [if_neg (by omega)]

theorem code_check_iff {files : Files} {readings : List Int} (inputs : Inputs files readings)
    {hottest : Int} (hmem : hottest ∈ readings) (hmax : ∀ m ∈ readings, m ≤ hottest)
    (config : Config)
    : (check files config).code
          = ladder (config.criticalTemp ≤ .fin (hottest / 1000))
            (config.warningTemp ≤ .fin (hottest / 1000))
        ↔
      0 ≤ hottest
        ∧ (config.criticalTemp ≤ .fin (hottest / 1000)
          ∨ ¬ Misread readings config.criticalTemp
            ∧ (config.warningTemp ≤ .fin (hottest / 1000)
              ∨ ¬ Misread readings config.warningTemp)) := by
  have hnil : temperatures files = [] ↔ ¬ 0 ≤ hottest := by
    have hexists := exists_mem_temperatures_iff inputs fun _ => True
    simp only [and_true] at hexists
    rw [List.eq_nil_iff_forall_not_mem, ← not_exists, hexists, not_iff_not]
    constructor
    . rintro ⟨m, hm, hpos⟩
      exact hpos.trans (hmax m hm)
    . intro hpos
      exact ⟨hottest, hmem, hpos⟩
  rw [code_check]
  simp only [hnil, exists_mem_temperatures_iff inputs]
  by_cases hpos : 0 ≤ hottest
  . simp only [hpos, not_true, if_false, true_and]
    rw [ladder_congr (reached_iff hmem hmax hpos _) (reached_iff hmem hmax hpos _),
      ladder_or_eq_iff]
  . simp only [hpos, not_false_iff, if_true, false_and, iff_false]
    exact (ladder_ne_unknown _ _).symm

/-- Between 1000 and 1001 millidegrees the temperature that is read drops from 1000 to 1.001. -/
theorem degrees_le_iff {m m' : Int} (h : m ≤ m')
    : degrees m ≤ degrees m' ↔ m' ≤ 1000 ∨ 1000 < m ∨ 1000 * m ≤ m' := by
  have hcast : (m : ℚ) ≤ m' := by exact_mod_cast h
  unfold degrees
  by_cases hm : 1000 < m
  . rw [if_pos hm, if_pos (by omega)]
    exact iff_of_true (by linarith) (.inr (.inl hm))
  . rw [if_neg hm]
    by_cases hm' : 1000 < m'
    . have hscaled : (m : ℚ) ≤ m' / 1000 ↔ 1000 * m ≤ m' := by
        rw [le_div_iff₀ (by norm_num), mul_comm]
        norm_cast
      rw [if_pos hm', hscaled]
      omega
    . rw [if_neg hm']
      exact iff_of_true hcast (.inl (by omega))

/--
The verdict is that of the hottest input if and only if this one is not below zero and no input that
is misread reaches a threshold beyond it. Of two inputs, the hotter one is read as the lower
temperature where the cooler one alone is misread, unless it is a thousand times hotter.
-/
theorem check_millidegrees_iff {files : Files} {readings : List Int}
    (inputs : Inputs files readings) {hottest : Int} (hmem : hottest ∈ readings)
    (hmax : ∀ m ∈ readings, m ≤ hottest) (config : Config)
    : ((check files config).code
            = ladder (config.criticalTemp ≤ .fin (hottest / 1000))
              (config.warningTemp ≤ .fin (hottest / 1000))
          ↔
        0 ≤ hottest
          ∧ (config.criticalTemp ≤ .fin (hottest / 1000)
            ∨ ¬ Misread readings config.criticalTemp
              ∧ (config.warningTemp ≤ .fin (hottest / 1000)
                ∨ ¬ Misread readings config.warningTemp)))
        ∧
      ∀ path path' m m', Reports files path m
          → Reports files path' m'
          → m.natAbs < 2 ^ 64
          → m'.natAbs < 2 ^ 64
          → m ≤ m'
          → (readTemperature files path ≤ readTemperature files path'
            ↔ m' ≤ 1000 ∨ 1000 < m ∨ 1000 * m ≤ m') := by
  refine ⟨code_check_iff inputs hmem hmax config, ?_⟩
  intro path path' m m' hreports hreports' hfits hfits' hle
  rw [readTemperature_eq hreports hfits, readTemperature_eq hreports' hfits', Double.fin_le_fin]
  exact degrees_le_iff hle

/-- Two sensors that are found, at 45 and at 90.5 degrees. -/
def boardFiles : Files := fun path =>
  if path = str "/sys/class/thermal/thermal_zone0/temp" then some (str "45000" ++ [10])
  else if path = str "/sys/class/hwmon/hwmon1/temp1_input" then some (str "90500" ++ [10])
  else none

theorem reports_thermalZone
    : Reports boardFiles (str "/sys/class/thermal/thermal_zone0/temp") 45000 :=
  ⟨[10], by decide +kernel, by decide +kernel⟩

theorem reports_hwmon
    : Reports boardFiles (str "/sys/class/hwmon/hwmon1/temp1_input") 90500 :=
  ⟨[10], by decide +kernel, by decide +kernel⟩

theorem inputs_boardFiles : Inputs boardFiles [45000, 90500] where
  reports := by
    have hdevices : findSensorDevices boardFiles = [str "/sys/class/thermal/thermal_zone0/temp",
        str "/sys/class/hwmon/hwmon1/temp1_input"] := by
      decide +kernel
    rw [hdevices]
    exact .cons reports_thermalZone (.cons reports_hwmon .nil)
  fits := by decide

theorem check_millidegrees_of_boardFiles
    : (check boardFiles {}).code
          = ladder ((85 : Double) ≤ .fin ((90500 : Int) / 1000))
            ((70 : Double) ≤ .fin ((90500 : Int) / 1000))
        ∧
      readTemperature boardFiles (str "/sys/class/thermal/thermal_zone0/temp")
        ≤ readTemperature boardFiles (str "/sys/class/hwmon/hwmon1/temp1_input") := by
  have hiff := check_millidegrees_iff inputs_boardFiles (by decide : (90500 : Int) ∈ _) (by decide)
    {}
  refine ⟨hiff.1.mpr ⟨by decide, .inl (by decide +kernel)⟩, ?_⟩
  exact (hiff.2 _ _ _ _ reports_thermalZone reports_hwmon (by decide) (by decide)
    (by decide)).mpr (.inr (.inl (by decide)))

def sensorFile (m : Int) : Files := fun path =>
  if path = str "/sys/class/thermal/thermal_zone0/temp" then some (intDec m ++ [10]) else none

/-- Half a degree is critical, frost is unknown, and a thousandth of a degree more is cooler. -/
theorem check_of_halfDegree
    : ((check (sensorFile 500) {}).code = .critical
          ∧ ladder ((85 : Double) ≤ .fin ((500 : Int) / 1000))
            ((70 : Double) ≤ .fin ((500 : Int) / 1000)) = .ok)
        ∧ ((check (sensorFile (-5000)) {}).code = .unknown
          ∧ ladder ((85 : Double) ≤ .fin ((-5000 : Int) / 1000))
            ((70 : Double) ≤ .fin ((-5000 : Int) / 1000)) = .ok)
        ∧ ¬ readTemperature (sensorFile 1000) (str "/sys/class/thermal/thermal_zone0/temp")
          ≤ readTemperature (sensorFile 1001) (str "/sys/class/thermal/thermal_zone0/temp") := by
  decide +kernel

end SensorsPlugin
end NetmonPlugins

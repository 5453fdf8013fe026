import Mathlib.Algebra.BigOperators.Group.List.Basic
import NetmonPlugins.Plugins.FileAge.Impl
import NetmonPlugins.Plugins.FileSize.Impl

/-!
This module determines which numbers with a unit `check_file_age` and `check_file_size` take for
the threshold that they mean.
-/

namespace NetmonPlugins

open CommandLine

/-- The threshold is stored, or an exception rejects the command line. -/
def Stores (outcome : Except Stop σ) (read : σ → Int) (threshold : Int) : Prop :=
  (∃ config, outcome = .ok config ∧ read config = threshold)
    ∨ ∃ e, outcome = .error (.fault (.exception e))

/-- The letter in front of any text, such as the `B` of `MB`. -/
def HasLetter (letters suffix : Bytes) : Prop := ∃ c ∈ letters, ∃ text, suffix = c :: text

theorem HasLetter.head {letters suffix : Bytes} (h : HasLetter letters suffix)
    (hletters : ∀ c ∈ letters, isDigit c = false)
    : ∀ b ∈ suffix.head?, isDigit b = false := by
  obtain ⟨c, hc, text, rfl⟩ := h
  intro b hb
  rw [List.head?_cons, Option.mem_some] at hb
  rw [← hb]
  exact hletters c hc

theorem stores_scan_iff {branch : Bytes → Branch σ} {option text : Bytes} {s : σ}
    {parsed : Except Fault Int} {store : Int → σ → σ} {read : σ → Int} {threshold : Int}
    (hbranch : ∃ convert, branch option = .value convert ∧ convert text = parsed.map store)
    (hread : ∀ value, read (store value s) = value)
    : Stores (scan branch s [option, text]) read threshold
        ↔
      parsed = .ok threshold ∨ ∃ e, parsed = .error (.exception e) := by
  obtain ⟨convert, hbranch, hconvert⟩ := hbranch
  unfold Stores scan
  rw [hbranch]
  dsimp only
  rw [hconvert]
  cases parsed with
  | ok value => simp [scan, hread, Except.map]
  | error fault => simp [Except.map]

namespace FileAgePlugin

inductive TimeUnit where
  | second
  | minute
  | hour
  | day
  deriving DecidableEq

namespace TimeUnit

def seconds : TimeUnit → Int
  | second => 1
  | minute => 60
  | hour => 3600
  | day => 86400

def letters : TimeUnit → Bytes
  | second => str "sS"
  | minute => str "mM"
  | hour => str "hH"
  | day => str "dD"

/-- How the unit is written behind a number. -/
def Written (unit : TimeUnit) (suffix : Bytes) : Prop :=
  (unit = second ∧ suffix = []) ∨ HasLetter unit.letters suffix

end TimeUnit

def Exact (text : Bytes) (threshold : Int) : Prop :=
  Stores (parseArguments [str "-w", text]) (·.warningAge) threshold
    ∧ Stores (parseArguments [str "-c", text]) (·.criticalAge) threshold

theorem exact_iff (text : Bytes) (threshold : Int)
    : Exact text threshold
        ↔
      parseTime text = .ok threshold ∨ ∃ e, parseTime text = .error (.exception e) := by
  have hwarning : Stores (parseArguments [str "-w", text]) (·.warningAge) threshold
      ↔ parseTime text = .ok threshold ∨ ∃ e, parseTime text = .error (.exception e) := by
    apply stores_scan_iff ⟨setWarning, rfl, rfl⟩
    intro value
    rfl
  have hcritical : Stores (parseArguments [str "-c", text]) (·.criticalAge) threshold
      ↔ parseTime text = .ok threshold ∨ ∃ e, parseTime text = .error (.exception e) := by
    apply stores_scan_iff ⟨setCritical, rfl, rfl⟩
    intro value
    rfl
  unfold Exact
  rw [hwarning, hcritical, and_self_iff]

theorem scaled_of_mulLong {value factor product : Int} (h : mulLong value factor = some product)
    : scaled value factor = .ok (intOfLong product) := by
  unfold scaled
  rw [h]

theorem scaled_eq_ok_iff {value : Nat} {factor : Int} (hfactor : 0 ≤ factor)
    : scaled value factor = .ok (value * factor) ↔ value * factor < 2 ^ 31 := by
  have hnonneg : 0 ≤ value * factor := mul_nonneg (Int.natCast_nonneg value) hfactor
  constructor
  . intro h
    unfold scaled at h
    split at h
    . next product hproduct =>
      rw [Except.ok.injEq] at h
      have hlt := intOfLong_lt product
      omega
    . contradiction
  . intro h
    rw [scaled_of_mulLong (mulLong_of_lt hnonneg (by omega)), intOfLong_of_lt hnonneg h]

theorem scaled_ne_exception (value factor : Int) (e : StdException)
    : scaled value factor ≠ .error (.exception e) := by
  unfold scaled
  split
  . simp
  . simp

theorem scaled_one {value : Nat} (h : value < 2 ^ 63) : scaled value 1 = .ok (intOfLong value) := by
  apply scaled_of_mulLong
  rw [mulLong_of_lt]
  . rw [Int.mul_one]
  . omega
  . omega

theorem TimeUnit.isDigit_letters (unit : TimeUnit) : ∀ c ∈ unit.letters, isDigit c = false := by
  cases unit <;> decide +kernel

theorem TimeUnit.Written.head {unit : TimeUnit} {suffix : Bytes} (h : unit.Written suffix)
    : ∀ b ∈ suffix.head?, isDigit b = false := by
  rcases h with ⟨-, rfl⟩ | hletter
  . simp
  . exact hletter.head unit.isDigit_letters

theorem parseTime_numeral (n : Numeral) {unit : TimeUnit} {suffix : Bytes}
    (hunit : unit.Written suffix)
    : parseTime (n.digits ++ suffix)
        =
      if n.value < 2 ^ 63 then
        scaled n.value unit.seconds
      else
        .error (.exception (.outOfRange (str "stol"))) := by
  have hne : n.digits ++ suffix ≠ [] := List.append_ne_nil_of_left_ne_nil n.digits_ne_nil suffix
  unfold parseTime
  rw [if_neg hne, n.stol_append hunit.head, n.stolPos_append hunit.head, List.drop_left]
  by_cases hlt : n.value < 2 ^ 63
  . rw [if_pos hlt, if_pos hlt]
    dsimp only
    rcases hunit with ⟨rfl, rfl⟩ | ⟨c, hc, text, rfl⟩
    . exact (scaled_one hlt).symm
    . cases unit with
      | second =>
        have hs : c = 115 ∨ c = 83 := by simpa [TimeUnit.letters, str] using hc
        dsimp only
        rw [if_pos hs]
        exact (scaled_one hlt).symm
      | minute =>
        have hm : c = 109 ∨ c = 77 := by simpa [TimeUnit.letters, str] using hc
        rcases hm with rfl | rfl
        . simp [TimeUnit.seconds]
        . simp [TimeUnit.seconds]
      | hour =>
        have hh : c = 104 ∨ c = 72 := by simpa [TimeUnit.letters, str] using hc
        rcases hh with rfl | rfl
        . simp [TimeUnit.seconds]
        . simp [TimeUnit.seconds]
      | day =>
        have hd : c = 100 ∨ c = 68 := by simpa [TimeUnit.letters, str] using hc
        rcases hd with rfl | rfl
        . simp [TimeUnit.seconds]
        . simp [TimeUnit.seconds]
  . rw [if_neg hlt, if_neg hlt]

theorem TimeUnit.seconds_pos (unit : TimeUnit) : 0 < unit.seconds := by
  cases unit <;> decide

/-- A number that is too large for a `long` is rejected. -/
theorem exact_numeral_iff (n : Numeral) {unit : TimeUnit} {suffix : Bytes}
    (hunit : unit.Written suffix)
    : Exact (n.digits ++ suffix) (n.value * unit.seconds)
        ↔
      n.value * unit.seconds < 2 ^ 31 ∨ 2 ^ 63 ≤ n.value := by
  rw [exact_iff, parseTime_numeral n hunit]
  by_cases hlt : n.value < 2 ^ 63
  . have hnone : ¬ ∃ e, scaled n.value unit.seconds = .error (.exception e) := by
      rintro ⟨e, he⟩
      exact scaled_ne_exception _ _ e he
    rw [if_pos hlt, or_iff_left hnone, or_iff_left (Nat.not_le_of_lt hlt),
      scaled_eq_ok_iff unit.seconds_pos.le]
  . rw [if_neg hlt]
    exact iff_of_true (.inr ⟨_, rfl⟩) (.inr (Nat.le_of_not_lt hlt))

end FileAgePlugin

namespace FileSizePlugin

inductive SizeUnit where
  | byte
  | kilobyte
  | megabyte
  | gigabyte
  deriving DecidableEq

namespace SizeUnit

def factors : SizeUnit → List Int
  | byte => []
  | kilobyte => [1024]
  | megabyte => [1024, 1024]
  | gigabyte => [1024, 1024, 1024]

def bytes : SizeUnit → Int
  | byte => 1
  | kilobyte => 2 ^ 10
  | megabyte => 2 ^ 20
  | gigabyte => 2 ^ 30

def letters : SizeUnit → Bytes
  | byte => str "bB"
  | kilobyte => str "kK"
  | megabyte => str "mM"
  | gigabyte => str "gG"

/-- How the unit is written behind a number. -/
def Written (unit : SizeUnit) (suffix : Bytes) : Prop :=
  (unit = byte ∧ suffix = []) ∨ HasLetter unit.letters suffix

end SizeUnit

def Exact (text : Bytes) (threshold : Int) : Prop :=
  Stores (parseArguments [str "-w", text]) (·.warningSize) threshold
    ∧ Stores (parseArguments [str "-c", text]) (·.criticalSize) threshold

theorem exact_iff (text : Bytes) (threshold : Int)
    : Exact text threshold
        ↔
      parseSize text = .ok threshold ∨ ∃ e, parseSize text = .error (.exception e) := by
  have hwarning : Stores (parseArguments [str "-w", text]) (·.warningSize) threshold
      ↔ parseSize text = .ok threshold ∨ ∃ e, parseSize text = .error (.exception e) := by
    apply stores_scan_iff ⟨setWarning, rfl, rfl⟩
    intro value
    rfl
  have hcritical : Stores (parseArguments [str "-c", text]) (·.criticalSize) threshold
      ↔ parseSize text = .ok threshold ∨ ∃ e, parseSize text = .error (.exception e) := by
    apply stores_scan_iff ⟨setCritical, rfl, rfl⟩
    intro value
    rfl
  unfold Exact
  rw [hwarning, hcritical, and_self_iff]

theorem scaled_ne_exception (value : Int) (factors : List Int) (e : StdException)
    : scaled value factors ≠ .error (.exception e) := by
  induction factors generalizing value with
  | nil => simp [scaled]
  | cons factor factors ih =>
    unfold scaled
    split
    . next product _ => exact ih product
    . simp

theorem one_le_prod {factors : List Int} (h : ∀ factor ∈ factors, 1 ≤ factor)
    : 1 ≤ factors.prod := by
  induction factors with
  | nil => rfl
  | cons factor factors ih =>
    rw [List.forall_mem_cons] at h
    rw [List.prod_cons]
    exact one_le_mul_of_one_le_of_one_le h.1 (ih h.2)

/-- The whole product is no smaller than one of the steps, so that no step hides an overflow. -/
theorem scaled_eq_ok_iff {value : Int} {factors : List Int} (hnonneg : 0 ≤ value)
    (hvalue : value < 2 ^ 63) (hfactors : ∀ factor ∈ factors, 1 ≤ factor)
    : scaled value factors = .ok (value * factors.prod) ↔ value * factors.prod < 2 ^ 63 := by
  induction factors generalizing value with
  | nil =>
    rw [List.prod_nil, Int.mul_one]
    exact iff_of_true rfl hvalue
  | cons factor factors ih =>
    rw [List.forall_mem_cons] at hfactors
    have hproduct : 0 ≤ value * factor := mul_nonneg hnonneg (by omega)
    rw [List.prod_cons, ← mul_assoc]
    by_cases hlt : value * factor < 2 ^ 63
    . rw [← ih hproduct hlt hfactors.2, scaled, mulLong_of_lt hproduct hlt]
    . have hle : value * factor ≤ value * factor * factors.prod :=
        le_mul_of_one_le_right hproduct (one_le_prod hfactors.2)
      rw [scaled, mulLong_of_le (Int.not_lt.mp hlt)]
      exact iff_of_false (by simp) (by omega)

theorem SizeUnit.isDigit_letters (unit : SizeUnit) : ∀ c ∈ unit.letters, isDigit c = false := by
  cases unit <;> decide +kernel

theorem SizeUnit.one_le_factors (unit : SizeUnit) : ∀ factor ∈ unit.factors, 1 ≤ factor := by
  cases unit <;> decide

theorem SizeUnit.prod_factors (unit : SizeUnit) : unit.factors.prod = unit.bytes := by
  cases unit <;> rfl

theorem SizeUnit.Written.head {unit : SizeUnit} {suffix : Bytes} (h : unit.Written suffix)
    : ∀ b ∈ suffix.head?, isDigit b = false := by
  rcases h with ⟨-, rfl⟩ | hletter
  . simp
  . exact hletter.head unit.isDigit_letters

theorem parseSize_numeral (n : Numeral) {unit : SizeUnit} {suffix : Bytes}
    (hunit : unit.Written suffix)
    : parseSize (n.digits ++ suffix)
        =
      if n.value < 2 ^ 63 then
        scaled n.value unit.factors
      else
        .error (.exception (.outOfRange (str "stol"))) := by
  have hne : n.digits ++ suffix ≠ [] := List.append_ne_nil_of_left_ne_nil n.digits_ne_nil suffix
  unfold parseSize
  rw [if_neg hne, n.stol_append hunit.head, n.stolPos_append hunit.head, List.drop_left]
  by_cases hlt : n.value < 2 ^ 63
  . rw [if_pos hlt, if_pos hlt]
    dsimp only
    rcases hunit with ⟨rfl, rfl⟩ | ⟨c, hc, text, rfl⟩
    . rfl
    . cases unit with
      | byte =>
        have hb : c = 98 ∨ c = 66 := by simpa [SizeUnit.letters, str] using hc
        dsimp only
        rw [if_pos hb]
        rfl
      | kilobyte =>
        have hk : c = 107 ∨ c = 75 := by simpa [SizeUnit.letters, str] using hc
        rcases hk with rfl | rfl
        . simp [SizeUnit.factors]
        . simp [SizeUnit.factors]
      | megabyte =>
        have hm : c = 109 ∨ c = 77 := by simpa [SizeUnit.letters, str] using hc
        rcases hm with rfl | rfl
        . simp [SizeUnit.factors]
        . simp [SizeUnit.factors]
      | gigabyte =>
        have hg : c = 103 ∨ c = 71 := by simpa [SizeUnit.letters, str] using hc
        rcases hg with rfl | rfl
        . simp [SizeUnit.factors]
        . simp [SizeUnit.factors]
  . rw [if_neg hlt, if_neg hlt]

theorem exact_numeral_iff (n : Numeral) {unit : SizeUnit} {suffix : Bytes}
    (hunit : unit.Written suffix)
    : Exact (n.digits ++ suffix) (n.value * unit.bytes)
        ↔
      n.value * unit.bytes < 2 ^ 63 ∨ 2 ^ 63 ≤ n.value := by
  rw [exact_iff, parseSize_numeral n hunit, ← unit.prod_factors]
  by_cases hlt : n.value < 2 ^ 63
  . have hvalue : (n.value : Int) < 2 ^ 63 := by exact_mod_cast hlt
    have hnone : ¬ ∃ e, scaled n.value unit.factors = .error (.exception e) := by
      rintro ⟨e, he⟩
      exact scaled_ne_exception _ _ e he
    rw [if_pos hlt, or_iff_left hnone, or_iff_left (Nat.not_le_of_lt hlt),
      scaled_eq_ok_iff (Int.natCast_nonneg _) hvalue unit.one_le_factors]
  . rw [if_neg hlt]
    exact iff_of_true (.inr ⟨_, rfl⟩) (.inr (Nat.le_of_not_lt hlt))

end FileSizePlugin

/--
A threshold is kept as it is meant, or rejected, if and only if it fits into the type it is kept in,
or its number is too large for a `long`.
-/
theorem unitThreshold_exact_iff (n : Numeral) (timeUnit : FileAgePlugin.TimeUnit)
    (sizeUnit : FileSizePlugin.SizeUnit) (timeSuffix sizeSuffix : Bytes)
    (htime : timeUnit.Written timeSuffix) (hsize : sizeUnit.Written sizeSuffix)
    : (FileAgePlugin.Exact (n.digits ++ timeSuffix) (n.value * timeUnit.seconds)
          ↔
        n.value * timeUnit.seconds < 2 ^ 31 ∨ 2 ^ 63 ≤ n.value)
        ∧
      (FileSizePlugin.Exact (n.digits ++ sizeSuffix) (n.value * sizeUnit.bytes)
          ↔
        n.value * sizeUnit.bytes < 2 ^ 63 ∨ 2 ^ 63 ≤ n.value) := by
  constructor
  . exact FileAgePlugin.exact_numeral_iff n htime
  . exact FileSizePlugin.exact_numeral_iff n hsize

theorem unitThreshold_exact_of_hundred
    : FileAgePlugin.Exact (str "100d") 8640000 ∧ FileSizePlugin.Exact (str "100MB") 104857600 := by
  have hday : FileAgePlugin.TimeUnit.day.Written (str "d") :=
    .inr ⟨100, by decide, [], rfl⟩
  have hmegabyte : FileSizePlugin.SizeUnit.megabyte.Written (str "MB") :=
    .inr ⟨77, by decide, str "B", rfl⟩
  have hexact := unitThreshold_exact_iff (.ofNat 100) .day .megabyte (str "d") (str "MB") hday
    hmegabyte
  exact ⟨hexact.1.mpr (.inl (by decide)), hexact.2.mpr (.inl (by decide))⟩

/-- `25000d` is stored as a threshold below zero, so that no age is critical. -/
theorem unitThreshold_wrapped
    : FileAgePlugin.parseArguments [str "log", str "-c", str "25000d"]
          = .ok { filePath := str "log", criticalAge := -2134967296 }
        ∧
      (FileAgePlugin.check { access := fun _ => true, st_mtime := fun _ => some 0 } 4000000000
          { filePath := str "log", criticalAge := -2134967296 }).code
        = .ok
        ∧
      FileSizePlugin.parseArguments [str "log", str "-c", str "8589934592G"]
        = .error (.fault .precondition) := by
  have hparse : FileAgePlugin.parseTime (str "25000d") = .ok (-2134967296) := by decide +kernel
  refine ⟨?_, by decide +kernel, rfl⟩
  have hfile : FileAgePlugin.branch (str "log") = .set fun config =>
      if config.filePath = [] then { config with filePath := str "log" } else config := rfl
  have hcritical : FileAgePlugin.branch (str "-c") = .value FileAgePlugin.setCritical := rfl
  unfold FileAgePlugin.parseArguments
  simp only [scan, hfile, hcritical, FileAgePlugin.setCritical, hparse, Except.map, ↓reduceIte]

end NetmonPlugins

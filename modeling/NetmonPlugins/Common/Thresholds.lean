import NetmonPlugins.Common.Plugin
import NetmonPlugins.Cxx.Digits

/-!
This module contains thresholds as a check judges a whole number by them, and how they are read back
from performance data: `label=value[UOM];[warn];[crit];[min];[max]`.
-/

namespace NetmonPlugins

inductive Comparison where
  | reaches
  | below
  | above
  deriving DecidableEq

structure Threshold where
  comparison : Comparison
  bound : Int
  deriving DecidableEq

structure Thresholds where
  warning : List Threshold := []
  critical : List Threshold := []
  deriving DecidableEq

def Threshold.isCrossed (threshold : Threshold) (value : Int) : Bool :=
  match threshold.comparison with
  | .reaches => value ≥ threshold.bound
  | .below => value < threshold.bound
  | .above => value > threshold.bound

def Thresholds.judge (thresholds : Thresholds) (value : Int) : ExitCode :=
  if thresholds.critical.any (·.isCrossed value) then
    .critical
  else if thresholds.warning.any (·.isCrossed value) then
    .warning
  else
    .ok

namespace Published

/-- A number and what follows it; the empty field holds none. -/
def number (field : Bytes) : Option Int :=
  let (negative, rest) := takeSign field
  let digits := rest.takeWhile isDigit
  if digits = [] then
    none
  else
    some (if negative then -digitsValue digits else digitsValue digits)

def fields (perfdata : Bytes) : List Bytes := perfdata.splitOn 59

def value (perfdata : Bytes) : Option Int :=
  match fields perfdata with
  | [] => none
  | field :: _ => number ((field.dropWhile (· ≠ 61)).drop 1)

def bound (perfdata : Bytes) (position : Nat) : Option Int :=
  (fields perfdata)[position]?.bind number

/-- The fields say nothing of how they are compared. -/
def thresholds (comparison : Comparison) (perfdata : Bytes) : Thresholds where
  warning := ((bound perfdata 1).map fun bound => ⟨comparison, bound⟩).toList
  critical := ((bound perfdata 2).map fun bound => ⟨comparison, bound⟩).toList

def item (label : Bytes) (value : Int) (uom : Bytes) (bounds : List Int) : Bytes :=
  label ++ str "=" ++ intDec value ++ uom ++ bounds.flatMap fun bound => str ";" ++ intDec bound

theorem takeSign_natDec (n : Nat) (rest : Bytes)
    : takeSign (natDec n ++ rest) = (false, natDec n ++ rest) := by
  obtain ⟨b, digits, hdigits⟩ := List.exists_cons_of_ne_nil (natDec_ne_nil n)
  have hb : isDigit b = true := isDigit_of_mem_natDec (hdigits ▸ List.mem_cons_self)
  rw [hdigits, List.cons_append]
  unfold takeSign
  split
  . next h => rw [(List.cons.inj h).1] at hb; exact absurd hb (by decide)
  . next h => rw [(List.cons.inj h).1] at hb; exact absurd hb (by decide)
  . rfl

theorem number_of_takeSign {field : Bytes} {negative : Bool} {n : Nat} {rest : Bytes}
    (hsign : takeSign field = (negative, natDec n ++ rest))
    (hrest : ∀ b ∈ rest.head?, isDigit b = false)
    : number field = some (if negative then -(n : Int) else n) := by
  unfold number
  rw [hsign]
  simp only [takeWhile_natDec _ _ hrest, natDec_ne_nil, digitsValue_natDec, ↓reduceIte]

theorem number_intDec (i : Int) (rest : Bytes) (hrest : ∀ b ∈ rest.head?, isDigit b = false)
    : number (intDec i ++ rest) = some i := by
  unfold intDec
  split
  . next h =>
    have hsign : takeSign (str "-" ++ natDec i.natAbs ++ rest) = (true, natDec i.natAbs ++ rest) :=
      rfl
    rw [number_of_takeSign hsign hrest]
    congr 1
    simp only [↓reduceIte]
    omega
  . next h =>
    rw [number_of_takeSign (takeSign_natDec _ _) hrest]
    congr 1
    simp only [Bool.false_eq_true, ↓reduceIte]
    omega

/-- A number is told apart from what follows it. -/
theorem intDec_append_inj {i j : Int} {rest rest' : Bytes} (h : intDec i ++ rest = intDec j ++ rest')
    (hrest : ∀ b ∈ rest.head?, isDigit b = false) (hrest' : ∀ b ∈ rest'.head?, isDigit b = false)
    : i = j ∧ rest = rest' := by
  have hnumber := congrArg number h
  rw [number_intDec i rest hrest, number_intDec j rest' hrest', Option.some.injEq] at hnumber
  rw [hnumber] at h
  exact ⟨hnumber, List.append_cancel_left h⟩

theorem semicolon_notMem_intDec (i : Int) : (59 : UInt8) ∉ intDec i := by
  intro h
  unfold intDec at h
  split at h
  . rcases List.mem_append.mp h with h | h
    . exact absurd h (by decide)
    . exact absurd (isDigit_of_mem_natDec h) (by decide)
  . exact absurd (isDigit_of_mem_natDec h) (by decide)

theorem intercalate_cons (separator : UInt8) (field : Bytes) (fields : List Bytes)
    : [separator].intercalate (field :: fields) = field ++ fields.flatMap (separator :: ·) := by
  induction fields generalizing field with
  | nil => rw [List.intercalate_singleton, List.flatMap_nil, List.append_nil]
  | cons next fields ih =>
    rw [List.intercalate_cons_cons, ih, List.flatMap_cons, List.append_assoc]
    rfl

theorem fields_item (label : Bytes) (value : Int) (uom : Bytes) (bounds : List Int)
    (hlabel : (59 : UInt8) ∉ label) (huom : (59 : UInt8) ∉ uom)
    : fields (item label value uom bounds)
        =
      (label ++ str "=" ++ intDec value ++ uom) :: bounds.map intDec := by
  have hitem : item label value uom bounds
      = [59].intercalate ((label ++ str "=" ++ intDec value ++ uom) :: bounds.map intDec) := by
    rw [intercalate_cons, List.flatMap_map]
    rfl
  unfold fields
  rw [hitem, List.splitOn_intercalate]
  . intro field hfield
    rcases List.mem_cons.mp hfield with rfl | hfield
    . simp only [List.mem_append, not_or]
      exact ⟨⟨⟨hlabel, by decide⟩, semicolon_notMem_intDec value⟩, huom⟩
    . obtain ⟨bound, _, rfl⟩ := List.mem_map.mp hfield
      apply semicolon_notMem_intDec
  . apply List.cons_ne_nil

theorem value_item (label : Bytes) (value : Int) (uom : Bytes) (bounds : List Int)
    (hlabel : ∀ b ∈ label, b ≠ 59 ∧ b ≠ 61) (huom : ∀ b ∈ uom, b ≠ 59 ∧ isDigit b = false)
    : Published.value (item label value uom bounds) = some value := by
  have hfind : (label ++ str "=" ++ intDec value ++ uom).dropWhile (· ≠ 61)
      = str "=" ++ (intDec value ++ uom) := by
    rw [List.append_assoc, List.append_assoc, List.dropWhile_append_of_pos]
    . rfl
    . intro b hb
      simpa using (hlabel b hb).2
  unfold Published.value
  rw [fields_item _ _ _ _ (fun h => (hlabel _ h).1 rfl) (fun h => (huom _ h).1 rfl)]
  dsimp only
  rw [hfind]
  apply number_intDec
  intro b hb
  exact (huom b (List.mem_of_mem_head? hb)).2

theorem bound_item (label : Bytes) (value : Int) (uom : Bytes) (bounds : List Int)
    (hlabel : (59 : UInt8) ∉ label) (huom : (59 : UInt8) ∉ uom) (position : Nat)
    : bound (item label value uom bounds) (position + 1) = bounds[position]? := by
  unfold bound
  rw [fields_item _ _ _ _ hlabel huom, List.getElem?_cons_succ, List.getElem?_map]
  cases bounds[position]? with
  | none => rfl
  | some bound =>
    have hread := number_intDec bound [] (by simp)
    rw [List.append_nil] at hread
    exact hread

theorem thresholds_item (comparison : Comparison) (label : Bytes) (value : Int) (uom : Bytes)
    (bounds : List Int) (hlabel : (59 : UInt8) ∉ label) (huom : (59 : UInt8) ∉ uom)
    : thresholds comparison (item label value uom bounds)
        =
      { warning := (bounds[0]?.map fun bound => ⟨comparison, bound⟩).toList
        critical := (bounds[1]?.map fun bound => ⟨comparison, bound⟩).toList } := by
  unfold thresholds
  rw [bound_item _ _ _ _ hlabel huom, bound_item _ _ _ _ hlabel huom]

end Published
end NetmonPlugins

import NetmonPlugins.Common.Severity
import NetmonPlugins.Common.Thresholds
import NetmonPlugins.Rfc.Message

/-!
This module contains items of performance data with what their numbers measure, how a backend
judges them: `label=value[UOM];[warn];[crit];[min];[max]`, and which of them it reads back from the
text.
-/

namespace NetmonPlugins
namespace Perfdata

variable {Q : Type}

structure Amount (Q : Type) where
  quantity : Q
  uom : Bytes
  number : Double
  decimals : Nat := 0

structure Item (Q : Type) where
  label : Bytes
  value : Amount Q
  warning : Option (Amount Q) := none
  critical : Option (Amount Q) := none
  min : Option (Amount Q) := none
  max : Option (Amount Q) := none

def Amount.text (amount : Amount Q) : Bytes := fixed amount.decimals amount.number

def Amount.printed (amount : Amount Q) : Double :=
  match amount.number with
  | .fin q =>
    let scaled : ℚ := roundHalfEven (|q| * 10 ^ amount.decimals)
    .fin ((if q < 0 then -scaled else scaled) / 10 ^ amount.decimals)
  | number => number

/-- Fields at the end that are empty are left out with their separators. -/
def fields : List (Option (Amount Q)) → Bytes
  | [] => []
  | some amount :: rest => str ";" ++ amount.text ++ fields rest
  | none :: rest => if fields rest = [] then [] else str ";" ++ fields rest

def Item.text (item : Item Q) : Bytes :=
  item.label ++ str "=" ++ item.value.text ++ item.value.uom
    ++ fields [item.warning, item.critical, item.min, item.max]

/-- A threshold alone is the end of the range from zero. -/
def exceeds (value : Double) (threshold : Option (Amount Q)) : Bool :=
  match threshold with
  | some amount => decide (value < 0) || decide (amount.printed < value)
  | none => false

def Item.judge (item : Item Q) : ExitCode :=
  if exceeds item.value.printed item.critical then
    .critical
  else if exceeds item.value.printed item.warning then
    .warning
  else
    .ok

theorem Item.judge_eq_ok_iff (item : Item Q)
    : item.judge = .ok
        ↔
      ¬ exceeds item.value.printed item.critical ∧ ¬ exceeds item.value.printed item.warning :=
  ladder_eq_ok_iff

def Item.Uniform (item : Item Q) : Prop :=
  ∀ threshold, item.warning = some threshold ∨ item.critical = some threshold
    → threshold.quantity = item.value.quantity ∧ threshold.uom = item.value.uom

def Item.InRange (item : Item Q) : Prop :=
  (∀ min, item.min = some min → min.printed ≤ item.value.printed)
    ∧ ∀ max, item.max = some max → item.value.printed ≤ max.printed

/-- A backend that reads the item comes to the code that the check returned. -/
structure Item.Reproduces (item : Item Q) (code : ExitCode) : Prop where
  uniform : item.Uniform
  judge : item.judge = code
  inRange : item.InRange

def whole (quantity : Q) (uom : Bytes) (number : Int) : Amount Q :=
  { quantity := quantity, uom := uom, number := .ofInt number }

theorem roundHalfEven_intCast (i : Int) : roundHalfEven (i : ℚ) = i := by
  have hrest : (i : ℚ) - (⌊(i : ℚ)⌋ : ℚ) < 1 / 2 := by
    rw [Int.floor_intCast, sub_self]
    norm_num
  unfold roundHalfEven
  dsimp only
  rw [if_pos hrest, Int.floor_intCast]

theorem roundHalfEven_abs_intCast (i : Int) : roundHalfEven (|(i : ℚ)| * 10 ^ 0) = |i| := by
  rw [pow_zero, mul_one, ← Int.cast_abs, roundHalfEven_intCast]

theorem fixed_zero_ofInt (i : Int) : fixed 0 (.ofInt i) = intDec i := by
  have hscaled : (roundHalfEven (|(i : ℚ)| * 10 ^ 0)).natAbs = i.natAbs := by
    rw [roundHalfEven_abs_intCast, Int.natAbs_abs]
  rw [Double.ofInt_eq_fin]
  unfold fixed intDec
  dsimp only
  rw [hscaled, pow_zero, Nat.div_one]
  simp only [Int.cast_lt_zero]
  split
  . simp
  . simp

@[simp]
theorem whole_text (quantity : Q) (uom : Bytes) (number : Int)
    : (whole quantity uom number).text = intDec number :=
  fixed_zero_ofInt number

@[simp]
theorem whole_uom (quantity : Q) (uom : Bytes) (number : Int)
    : (whole quantity uom number).uom = uom := rfl

@[simp]
theorem whole_printed (quantity : Q) (uom : Bytes) (number : Int)
    : (whole quantity uom number).printed = .fin number := by
  unfold Amount.printed whole
  rw [Double.ofInt_eq_fin]
  dsimp only
  rw [roundHalfEven_abs_intCast, pow_zero, div_one]
  simp only [Int.cast_lt_zero]
  congr 1
  split
  . next h => rw [abs_of_neg h, Int.cast_neg, neg_neg]
  . next h => rw [abs_of_nonneg (by omega)]

section Reading

/-- Digits, and digits behind a point. -/
def readUnsigned (text : Bytes) : ℚ × Bytes :=
  let whole := text.takeWhile isDigit
  match text.dropWhile isDigit with
  | 46 :: behind =>
    let fraction := behind.takeWhile isDigit
    (digitsValue whole + digitsValue fraction / 10 ^ fraction.length, behind.dropWhile isDigit)
  | behind => (digitsValue whole, behind)

/-- A number and what follows it. -/
def readNumber (text : Bytes) : Option (ℚ × Bytes) :=
  let (negative, unsigned) := takeSign text
  if unsigned.takeWhile isDigit = [] then
    none
  else
    let (value, rest) := readUnsigned unsigned
    some (if negative then -value else value, rest)

def Amount.isFinite (amount : Amount Q) : Bool :=
  match amount.number with
  | .fin _ => true
  | _ => false

/-- The number as it is printed. -/
def Amount.reading (amount : Amount Q) : ℚ :=
  match amount.printed with
  | .fin q => q
  | _ => 0

/-- What follows a number is told apart from it. -/
def EndsNumber (rest : Bytes) : Prop := ∀ b ∈ rest.head?, isDigit b = false ∧ b ≠ 46

theorem digitsValue_zeros (count : Nat) (digits : Bytes)
    : digitsValue (List.replicate count 48 ++ digits) = digitsValue digits := by
  unfold digitsValue
  rw [List.foldl_append]
  congr 1
  induction count with
  | zero => rfl
  | succ count ih => rw [List.replicate_succ, List.foldl_cons]; exact ih

theorem length_natDec_le {n prec : Nat} (h : n < 10 ^ prec) (hprec : 0 < prec)
    : (natDec n).length ≤ prec := by
  unfold natDec
  rw [List.length_map, Nat.length_toDigits_le_iff (by decide) hprec]
  exact h

theorem isDigit_of_mem_padded {count n : Nat} {b : UInt8}
    (h : b ∈ List.replicate count 48 ++ natDec n)
    : isDigit b = true := by
  rcases List.mem_append.mp h with h | h
  . rw [List.eq_of_mem_replicate h]
    decide
  . exact isDigit_of_mem_natDec h

theorem EndsNumber.digit {rest : Bytes} (h : EndsNumber rest)
    : ∀ b ∈ rest.head?, isDigit b = false :=
  fun b hb => (h b hb).1

theorem readUnsigned_whole (n : Nat) {rest : Bytes} (hrest : EndsNumber rest)
    : readUnsigned (natDec n ++ rest) = ((n : ℚ), rest) := by
  unfold readUnsigned
  rw [takeWhile_natDec n rest hrest.digit, dropWhile_natDec n rest hrest.digit]
  simp only [digitsValue_natDec]
  split
  . next behind => exact absurd rfl (hrest 46 rfl).2
  . rfl

theorem readUnsigned_fraction (scaled : Nat) {prec : Nat} (hprec : 0 < prec) {rest : Bytes}
    (hrest : EndsNumber rest)
    : readUnsigned (natDec (scaled / 10 ^ prec) ++ (str "."
          ++ (List.replicate (prec - (natDec (scaled % 10 ^ prec)).length) 48
            ++ natDec (scaled % 10 ^ prec)) ++ rest))
        =
      ((scaled : ℚ) / 10 ^ prec, rest) := by
  generalize hfraction : List.replicate (prec - (natDec (scaled % 10 ^ prec)).length) 48
    ++ natDec (scaled % 10 ^ prec) = fraction
  have hdigits : ∀ b ∈ fraction, isDigit b = true := by
    rw [← hfraction]
    exact fun b => isDigit_of_mem_padded
  have hmod : scaled % 10 ^ prec < 10 ^ prec := Nat.mod_lt _ (by positivity)
  have hlength : fraction.length = prec := by
    rw [← hfraction, List.length_append, List.length_replicate]
    have := length_natDec_le hmod hprec
    omega
  have hvalue : digitsValue fraction = scaled % 10 ^ prec := by
    rw [← hfraction, digitsValue_zeros, digitsValue_natDec]
  have hpoint : ∀ b ∈ (str "." ++ fraction ++ rest).head?, isDigit b = false := by
    intro b hb
    have hdot : 46 = b := Option.some.inj (Option.mem_def.mp hb)
    rw [← hdot]
    decide
  unfold readUnsigned
  rw [takeWhile_natDec _ _ hpoint, dropWhile_natDec _ _ hpoint]
  show ((digitsValue (natDec (scaled / 10 ^ prec)) : ℚ)
      + digitsValue ((fraction ++ rest).takeWhile isDigit)
        / 10 ^ ((fraction ++ rest).takeWhile isDigit).length,
    (fraction ++ rest).dropWhile isDigit) = _
  rw [takeWhile_append_of_head hdigits hrest.digit, dropWhile_append_of_head hdigits hrest.digit,
    digitsValue_natDec, hlength, hvalue]
  have hsum : (scaled : ℚ)
      = 10 ^ prec * (scaled / 10 ^ prec : Nat) + (scaled % 10 ^ prec : Nat) := by
    exact_mod_cast (Nat.div_add_mod scaled (10 ^ prec)).symm
  rw [hsum]
  congr 1
  field_simp

theorem takeSign_signed (negative : Bool) (n : Nat) (rest : Bytes)
    : takeSign ((if negative then str "-" else []) ++ (natDec n ++ rest))
        =
      (negative, natDec n ++ rest) := by
  cases negative with
  | false => exact Published.takeSign_natDec n rest
  | true => rfl

theorem roundHalfEven_nonneg {q : ℚ} (h : 0 ≤ q) : 0 ≤ roundHalfEven q := by
  have hfloor : 0 ≤ ⌊q⌋ := Int.floor_nonneg.mpr h
  unfold roundHalfEven
  dsimp only
  split
  . exact hfloor
  . split
    . split
      . exact hfloor
      . omega
    . omega

theorem readUnsigned_fixed (scaled prec : Nat) {rest : Bytes} (hrest : EndsNumber rest)
    : readUnsigned (natDec (scaled / 10 ^ prec) ++ ((if prec = 0 then [] else str "."
          ++ (List.replicate (prec - (natDec (scaled % 10 ^ prec)).length) 48
            ++ natDec (scaled % 10 ^ prec))) ++ rest))
        =
      ((scaled : ℚ) / 10 ^ prec, rest) := by
  by_cases hprec : prec = 0
  . rw [if_pos hprec, hprec, pow_zero, Nat.div_one, pow_zero, div_one, List.nil_append]
    exact readUnsigned_whole scaled hrest
  . rw [if_neg hprec]
    exact readUnsigned_fraction scaled (by omega) hrest

theorem takeWhile_natDec_ne_nil (n : Nat) (rest : Bytes)
    : (natDec n ++ rest).takeWhile isDigit ≠ [] := by
  obtain ⟨b, digits, hdigits⟩ := List.exists_cons_of_ne_nil (natDec_ne_nil n)
  have hb : isDigit b = true := isDigit_of_mem_natDec (hdigits ▸ List.mem_cons_self)
  rw [hdigits, List.cons_append, List.takeWhile_cons_of_pos hb]
  apply List.cons_ne_nil

theorem readNumber_text {amount : Amount Q} (hfinite : amount.isFinite = true) {rest : Bytes}
    (hrest : EndsNumber rest)
    : readNumber (amount.text ++ rest) = some (amount.reading, rest) := by
  obtain ⟨quantity, uom, number, prec⟩ := amount
  cases number with
  | nan => contradiction
  | inf negative => contradiction
  | fin q =>
    have hnonneg := roundHalfEven_nonneg (show 0 ≤ |q| * 10 ^ prec by positivity)
    have hcast : ((roundHalfEven (|q| * 10 ^ prec)).natAbs : ℚ)
        = (roundHalfEven (|q| * 10 ^ prec) : ℚ) := by
      rw [Nat.cast_natAbs, abs_of_nonneg hnonneg]
    have hsign := takeSign_signed (decide (q < 0))
      ((roundHalfEven (|q| * 10 ^ prec)).natAbs / 10 ^ prec)
    have hread := readUnsigned_fixed (roundHalfEven (|q| * 10 ^ prec)).natAbs prec hrest
    unfold readNumber Amount.text Amount.reading Amount.printed fixed
    simp only [decide_eq_true_eq] at hsign
    simp only [List.append_assoc] at hread ⊢
    simp only [hsign, takeWhile_natDec_ne_nil, ↓reduceIte, hread, hcast, decide_eq_true_eq]
    split
    . rw [neg_div]
    . rfl

theorem readNumber_eq_none {amount : Amount Q} (hfinite : amount.isFinite = false) (rest : Bytes)
    : readNumber (amount.text ++ rest) = none := by
  obtain ⟨quantity, uom, number, prec⟩ := amount
  cases number with
  | nan => rfl
  | inf negative => cases negative <;> rfl
  | fin q => contradiction

/-- An item as it is read: fields behind the last that holds a number do not count. -/
structure Reading where
  label : Bytes
  value : ℚ
  uom : Bytes
  bounds : List (Option ℚ)
  deriving DecidableEq

def readBound (field : Bytes) : Option (Option ℚ) :=
  if field = [] then
    some none
  else
    match readNumber field with
    | some (bound, []) => some (some bound)
    | _ => none

def Reading.read (text : Bytes) : Option Reading := do
  let (label, rest) ← Message.cut 61 text
  match rest.splitOn 59 with
  | [] => none
  | field :: fields =>
    let (value, uom) ← readNumber field
    let bounds ← fields.mapM readBound
    return { label := label, value := value, uom := uom, bounds := bounds }

/-- The fields up to the last that holds a number. -/
def kept : List (Option (Amount Q)) → List (Option (Amount Q))
  | [] => []
  | some amount :: rest => some amount :: kept rest
  | none :: rest => if kept rest = [] then [] else none :: kept rest

def Item.bounds (item : Item Q) : List (Option (Amount Q)) :=
  kept [item.warning, item.critical, item.min, item.max]

def Item.reading (item : Item Q) : Reading where
  label := item.label
  value := item.value.reading
  uom := item.value.uom
  bounds := item.bounds.map fun bound => bound.map Amount.reading

/-- A unit that neither goes on with a number nor ends a field or an item. -/
def IsUnit (uom : Bytes) : Prop :=
  EndsNumber uom ∧ (59 : UInt8) ∉ uom ∧ (32 : UInt8) ∉ uom

def boundText (bound : Option (Amount Q)) : Bytes :=
  match bound with
  | some amount => amount.text
  | none => []

theorem kept_eq_nil_iff (bounds : List (Option (Amount Q)))
    : kept bounds = [] ↔ fields bounds = [] := by
  induction bounds with
  | nil => simp [kept, fields]
  | cons bound bounds ih =>
    cases bound with
    | none =>
      unfold kept fields
      by_cases h : kept bounds = []
      . rw [if_pos h, if_pos (ih.mp h)]
        simp
      . rw [if_neg h, if_neg (fun hfields => h (ih.mpr hfields))]
        simp [show str ";" ≠ [] by decide]
    | some amount =>
      unfold kept fields
      exact iff_of_false (by simp) (by simp [show str ";" ≠ [] by decide])

theorem fields_eq_kept (bounds : List (Option (Amount Q)))
    : fields bounds = (kept bounds).flatMap fun bound => 59 :: boundText bound := by
  induction bounds with
  | nil => rfl
  | cons bound bounds ih =>
    cases bound with
    | none =>
      unfold kept fields
      by_cases h : kept bounds = []
      . rw [if_pos h, if_pos ((kept_eq_nil_iff bounds).mp h)]
        rfl
      . rw [if_neg h, if_neg (fun hfields => h ((kept_eq_nil_iff bounds).mpr hfields)), ih]
        rfl
    | some amount =>
      unfold kept fields
      rw [ih, List.flatMap_cons]
      rfl

theorem ne_of_isDigit {b : UInt8} (h : isDigit b = true) : b ≠ 59 ∧ b ≠ 32 := by
  constructor
  . rintro rfl
    contradiction
  . rintro rfl
    contradiction

theorem mem_fixed {prec : Nat} {number : Double} {b : UInt8} (h : b ∈ fixed prec number)
    : b ≠ 59 ∧ b ≠ 32 := by
  have hnan : ∀ b ∈ str "nan", b ≠ 59 ∧ b ≠ 32 := by decide +kernel
  have hinf : ∀ b ∈ str "-inf", b ≠ 59 ∧ b ≠ 32 := by decide +kernel
  have hpoint : ∀ b ∈ str ".", b ≠ 59 ∧ b ≠ 32 := by decide +kernel
  cases number with
  | nan => exact hnan b h
  | inf negative =>
    cases negative with
    | false => exact hinf b (List.mem_cons_of_mem _ h)
    | true => exact hinf b h
  | fin q =>
    unfold fixed at h
    simp only [List.mem_append] at h
    rcases h with (hsign | hwhole) | hfraction
    . split at hsign
      . exact hinf b (List.mem_append_left (str "inf") hsign)
      . exact absurd hsign List.not_mem_nil
    . exact ne_of_isDigit (isDigit_of_mem_natDec hwhole)
    . split at hfraction
      . exact absurd hfraction List.not_mem_nil
      . rcases List.mem_append.mp hfraction with hdot | hdigits
        . exact hpoint b hdot
        . exact ne_of_isDigit (isDigit_of_mem_padded hdigits)

theorem mem_boundText {bound : Option (Amount Q)} {b : UInt8} (h : b ∈ boundText bound)
    : b ≠ 59 ∧ b ≠ 32 := by
  cases bound with
  | none => contradiction
  | some amount => exact mem_fixed h

theorem mapM_map_eq_some_iff {α β γ : Type} (f : β → Option γ) (g : α → β) (h : α → γ)
    (l : List α)
    : (l.map g).mapM f = some (l.map h) ↔ ∀ a ∈ l, f (g a) = some (h a) := by
  induction l with
  | nil => simp
  | cons a l ih =>
    rw [List.map_cons, List.map_cons, List.mapM_cons, List.forall_mem_cons, ← ih]
    simp only [Option.bind_eq_bind, Option.pure_def, Option.bind_eq_some_iff, Option.some.injEq,
      List.cons.injEq]
    constructor
    . rintro ⟨c, hc, cs, hcs, rfl, rfl⟩
      exact ⟨hc, hcs⟩
    . rintro ⟨hc, hcs⟩
      exact ⟨_, hc, _, hcs, rfl, rfl⟩

theorem endsNumber_nil : EndsNumber [] := by
  intro b hb
  contradiction

theorem readBound_boundText_iff (bound : Option (Amount Q))
    : readBound (boundText bound) = some (bound.map Amount.reading)
        ↔
      ∀ amount ∈ bound, amount.isFinite = true := by
  cases bound with
  | none => simp [readBound, boundText]
  | some amount =>
    unfold readBound boundText
    dsimp only
    cases hfinite : amount.isFinite with
    | false =>
      have hread := readNumber_eq_none hfinite []
      rw [List.append_nil] at hread
      simp [hread, hfinite]
    | true =>
      have hread := readNumber_text hfinite endsNumber_nil
      rw [List.append_nil] at hread
      have hne : amount.text ≠ [] := by
        intro hnil
        rw [hnil] at hread
        contradiction
      simp [hread, hne, hfinite]

theorem splitOn_fields (item : Item Q) (huom : IsUnit item.value.uom)
    : (item.value.text ++ item.value.uom
          ++ fields [item.warning, item.critical, item.min, item.max]).splitOn 59
        =
      (item.value.text ++ item.value.uom) :: item.bounds.map boundText := by
  have hjoin : item.value.text ++ item.value.uom
        ++ fields [item.warning, item.critical, item.min, item.max]
      = [59].intercalate ((item.value.text ++ item.value.uom) :: item.bounds.map boundText) := by
    rw [Published.intercalate_cons, List.flatMap_map, fields_eq_kept]
    rfl
  rw [hjoin, List.splitOn_intercalate]
  . intro field hfield hmem
    rcases List.mem_cons.mp hfield with rfl | hfield
    . rcases List.mem_append.mp hmem with hmem | hmem
      . exact (mem_fixed hmem).1 rfl
      . exact huom.2.1 hmem
    . obtain ⟨bound, _, rfl⟩ := List.mem_map.mp hfield
      exact (mem_boundText hmem).1 rfl
  . apply List.cons_ne_nil

theorem read_text_iff {item : Item Q} (huom : IsUnit item.value.uom)
    (hlabel : (61 : UInt8) ∉ item.label)
    : Reading.read item.text = some item.reading
        ↔
      item.value.isFinite = true
        ∧ ∀ bound ∈ item.bounds, ∀ amount ∈ bound, amount.isFinite = true := by
  have hcut : Message.cut 61 item.text
      = some (item.label, item.value.text ++ item.value.uom
        ++ fields [item.warning, item.critical, item.min, item.max]) := by
    rw [Message.cut_eq_some_iff]
    refine ⟨?_, hlabel⟩
    unfold Item.text
    simp only [List.append_assoc]
    rfl
  unfold Reading.read
  simp only [hcut, Option.bind_eq_bind, Option.bind_some, splitOn_fields item huom]
  cases hfinite : item.value.isFinite with
  | false => simp [readNumber_eq_none hfinite]
  | true =>
    rw [readNumber_text hfinite huom.1]
    simp only [Option.bind_some, true_and]
    have hbounds := mapM_map_eq_some_iff readBound boundText (Option.map Amount.reading) item.bounds
    simp only [readBound_boundText_iff] at hbounds
    rw [← hbounds]
    simp only [Option.bind_eq_some_iff, Option.pure_def, Option.some.injEq]
    constructor
    . rintro ⟨bounds, hread, heq⟩
      rw [hread]
      exact congrArg (some ·.bounds) heq
    . intro hread
      exact ⟨_, hread, rfl⟩

theorem text_ne_nil (item : Item Q) : item.text ≠ [] := by
  unfold Item.text
  simp [show str "=" ≠ [] by decide]

end Reading

section Writing

def decimal (decimals : Nat) (uom : Bytes) (number : Double) : Amount Unit where
  quantity := ()
  uom := uom
  number := number
  decimals := decimals

/-- An item with both thresholds, or with none. -/
def limited (label : Bytes) (value : Amount Unit) (isSet : Bool) (warning critical : Amount Unit)
    : Item Unit where
  label := label
  value := value
  warning := if isSet then some warning else none
  critical := if isSet then some critical else none

def plain (label : Bytes) (value : Amount Unit) : Item Unit where
  label := label
  value := value

def units : List Bytes := [[], str "%", str "B", str "KB", str "MB", str "ms", str "s"]

def Amount.forget (amount : Amount Q) : Amount Unit := { amount with quantity := () }

/-- The item without what its numbers measure, which is not printed. -/
def Item.forget (item : Item Q) : Item Unit where
  label := item.label
  value := item.value.forget
  warning := item.warning.map Amount.forget
  critical := item.critical.map Amount.forget
  min := item.min.map Amount.forget
  max := item.max.map Amount.forget

end Writing

end Perfdata
end NetmonPlugins

import NetmonPlugins.Cxx.Numeric

/-!
This module contains the decimal notation of natural numbers read back.
-/

namespace NetmonPlugins

theorem toNat_digit {c : Char} (h : c.isDigit) : (UInt8.ofNat c.toNat).toNat = c.toNat := by
  have hc := Char.isDigit_iff_toNat.mp h
  rw [UInt8.toNat_ofNat']
  apply Nat.mod_eq_of_lt
  exact Nat.lt_of_le_of_lt hc.2 (by decide)

theorem isDigit_of_mem_natDec {n : Nat} {b : UInt8} (h : b ∈ natDec n) : isDigit b = true := by
  obtain ⟨c, hc, rfl⟩ := List.mem_map.mp h
  have hdigit := Nat.isDigit_of_mem_toDigits (by decide) (by decide) hc
  have hbounds := Char.isDigit_iff_toNat.mp hdigit
  unfold isDigit
  rw [Bool.and_eq_true, decide_eq_true_eq, decide_eq_true_eq, UInt8.le_iff_toNat_le,
    UInt8.le_iff_toNat_le, toNat_digit hdigit]
  exact hbounds

theorem foldl_digits (chars : List Char) (h : ∀ c ∈ chars, c.isDigit) (init : Nat)
    : (chars.map fun c => UInt8.ofNat c.toNat).foldl (fun acc b => acc * 10 + (b.toNat - 48)) init
        =
      Nat.ofDigitChars 10 chars init := by
  induction chars generalizing init with
  | nil => rfl
  | cons c chars ih =>
    rw [List.forall_mem_cons] at h
    rw [List.map_cons, List.foldl_cons, ih h.2, Nat.ofDigitChars_cons, toNat_digit h.1,
      Nat.mul_comm]
    rfl

theorem digitsValue_natDec (n : Nat) : digitsValue (natDec n) = n := by
  unfold digitsValue natDec
  rw [foldl_digits]
  . apply Nat.ofDigitChars_ten_toDigits
  . intro c hc
    exact Nat.isDigit_of_mem_toDigits (by decide) (by decide) hc

theorem natDec_inj {n n' : Nat} (h : natDec n = natDec n') : n = n' := by
  rw [← digitsValue_natDec n, h, digitsValue_natDec]

theorem natDec_ne_nil (n : Nat) : natDec n ≠ [] := by
  unfold natDec
  rw [ne_eq, List.map_eq_nil_iff]
  apply Nat.toDigits_ne_nil

theorem takeWhile_natDec (n : Nat) (rest : Bytes) (hrest : ∀ b ∈ rest.head?, isDigit b = false)
    : (natDec n ++ rest).takeWhile isDigit = natDec n :=
  takeWhile_append_of_head (fun _ hb => isDigit_of_mem_natDec hb) hrest

theorem dropWhile_natDec (n : Nat) (rest : Bytes) (hrest : ∀ b ∈ rest.head?, isDigit b = false)
    : (natDec n ++ rest).dropWhile isDigit = rest :=
  dropWhile_append_of_head (fun _ hb => isDigit_of_mem_natDec hb) hrest

theorem isSpace_of_isDigit {b : UInt8} (h : isDigit b = true) : isSpace b = false := by
  unfold isDigit at h
  unfold isSpace
  simp only [Bool.and_eq_true, decide_eq_true_eq, UInt8.le_iff_toNat_le, UInt8.reduceToNat] at h
  simp only [Bool.or_eq_false_iff, Bool.and_eq_false_iff, decide_eq_false_iff_not,
    UInt8.le_iff_toNat_le, ← UInt8.toNat_inj, UInt8.reduceToNat]
  omega

theorem isDigit_of_isSpace {b : UInt8} (h : isSpace b = true) : isDigit b = false := by
  rw [← Bool.not_eq_true]
  intro hdigit
  rw [isSpace_of_isDigit hdigit] at h
  contradiction

theorem range_of_stoInteger {name text : Bytes} {lo hi value : Int}
    (h : stoInteger name lo hi text = .ok value)
    : lo ≤ value ∧ value ≤ hi := by
  have hfits : ∀ v : Int,
      (if lo ≤ v ∧ v ≤ hi then Except.ok v else .error (StdException.outOfRange name)) = .ok value
      → lo ≤ value ∧ value ≤ hi := by
    intro v hv
    split at hv
    . next hrange =>
      rw [Except.ok.injEq] at hv
      rwa [← hv]
    . contradiction
  unfold stoInteger at h
  dsimp only at h
  by_cases hnil : (takeSign (text.dropWhile isSpace)).2.takeWhile isDigit = []
  . rw [if_pos hnil] at h
    contradiction
  . rw [if_neg hnil] at h
    exact hfits _ h

theorem takeSign_of_digits {digits : Bytes} (hne : digits ≠ [])
    (hdigits : ∀ b ∈ digits, isDigit b = true) (rest : Bytes)
    : takeSign ((digits ++ rest).dropWhile isSpace) = (false, digits ++ rest) := by
  have hhead : ∀ b ∈ (digits ++ rest).head?, isDigit b = true := by
    intro b hb
    rw [List.head?_append_of_ne_nil _ hne] at hb
    exact hdigits b (List.mem_of_mem_head? hb)
  have hspace : (digits ++ rest).dropWhile isSpace = digits ++ rest := by
    cases htext : digits ++ rest with
    | nil => rfl
    | cons b text =>
      rw [htext] at hhead
      rw [List.dropWhile_cons_of_neg]
      rw [isSpace_of_isDigit (hhead b rfl)]
      exact Bool.false_ne_true
  rw [hspace]
  unfold takeSign
  split
  . next heq => exact absurd (hhead 43 (by simp [heq])) (by decide)
  . next heq => exact absurd (hhead 45 (by simp [heq])) (by decide)
  . rfl

/-- A numeral that no digit follows, in front of anything. -/
theorem stoInteger_append (name : Bytes) (lo hi : Int) (digits rest : Bytes) (hne : digits ≠ [])
    (hdigits : ∀ b ∈ digits, isDigit b = true) (hrest : ∀ b ∈ rest.head?, isDigit b = false)
    : stoInteger name lo hi (digits ++ rest)
        =
      if lo ≤ digitsValue digits ∧ digitsValue digits ≤ hi then
        .ok (digitsValue digits)
      else
        .error (.outOfRange name) := by
  have hall : (digits ++ rest).takeWhile isDigit = digits := takeWhile_append_of_head hdigits hrest
  unfold stoInteger
  rw [takeSign_of_digits hne hdigits rest]
  simp only [hall, hne, ↓reduceIte, Bool.false_eq_true]

theorem stoInteger_of_isDigit (name : Bytes) (lo hi : Int) (digits : Bytes) (hne : digits ≠ [])
    (hdigits : ∀ b ∈ digits, isDigit b = true) (hlo : lo ≤ digitsValue digits)
    (hhi : digitsValue digits ≤ hi)
    : stoInteger name lo hi digits = .ok (digitsValue digits) := by
  have happend := stoInteger_append name lo hi digits [] hne hdigits (by simp)
  rw [List.append_nil, if_pos ⟨hlo, hhi⟩] at happend
  exact happend

end NetmonPlugins

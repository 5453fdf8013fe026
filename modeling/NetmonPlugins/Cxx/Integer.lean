import NetmonPlugins.Cxx.Digits

/-!
This module contains the arithmetic of the signed integer types, which have 32 (`int`) and 64 bits
(`long`) on Linux, and `std::stol` with the position it stops at.
-/

namespace NetmonPlugins

/-- `a * b` of two `long`, which is undefined where the product is no `long`. -/
def mulLong (a b : Int) : Option Int :=
  if -2 ^ 63 ≤ a * b ∧ a * b < 2 ^ 63 then some (a * b) else none

/-- `a + b` of two `int`, which is undefined where the sum is no `int`. -/
def addInt (a b : Int) : Option Int :=
  if -2 ^ 31 ≤ a + b ∧ a + b < 2 ^ 31 then some (a + b) else none

/-- `static_cast<int>` of a `long`, which keeps the value modulo 2^32. -/
def intOfLong (i : Int) : Int := i.bmod (2 ^ 32)

/-- What `std::stol` stores behind its second argument: how many bytes it has converted. -/
def stolPos (text : Bytes) : Nat :=
  text.length - ((takeSign (text.dropWhile isSpace)).2.dropWhile isDigit).length

theorem intOfLong_of_lt {i : Int} (hnonneg : 0 ≤ i) (h : i < 2 ^ 31) : intOfLong i = i := by
  unfold intOfLong
  rw [Int.bmod_eq_iff (by decide)]
  omega

theorem intOfLong_lt (i : Int) : intOfLong i < 2 ^ 31 :=
  Int.bmod_lt (by decide)

theorem addInt_of_lt {a b : Nat} (h : a + b < 2 ^ 31) : addInt a b = some ↑(a + b) := by
  unfold addInt
  rw [if_pos (by omega), Int.natCast_add]

theorem mulLong_of_lt {a b : Int} (hnonneg : 0 ≤ a * b) (h : a * b < 2 ^ 63)
    : mulLong a b = some (a * b) := by
  unfold mulLong
  rw [if_pos ⟨by omega, h⟩]

theorem mulLong_of_le {a b : Int} (h : 2 ^ 63 ≤ a * b) : mulLong a b = none := by
  unfold mulLong
  rw [if_neg (by omega)]

/-- A natural number in decimal notation. -/
structure Numeral where
  digits : Bytes
  digits_ne_nil : digits ≠ []
  isDigit_digits : ∀ b ∈ digits, isDigit b = true

namespace Numeral

def value (n : Numeral) : Nat := digitsValue n.digits

def ofNat (n : Nat) : Numeral where
  digits := natDec n
  digits_ne_nil := natDec_ne_nil n
  isDigit_digits _ := isDigit_of_mem_natDec

variable (n : Numeral) {rest : Bytes}

theorem stol_append (hrest : ∀ b ∈ rest.head?, isDigit b = false)
    : stol (n.digits ++ rest)
        =
      if n.value < 2 ^ 63 then .ok n.value else .error (.outOfRange (str "stol")) := by
  unfold stol
  rw [stoInteger_append _ _ _ _ _ n.digits_ne_nil n.isDigit_digits hrest]
  congr 1
  rw [eq_iff_iff]
  unfold value
  omega

theorem stolPos_append (hrest : ∀ b ∈ rest.head?, isDigit b = false)
    : stolPos (n.digits ++ rest) = n.digits.length := by
  unfold stolPos
  rw [takeSign_of_digits n.digits_ne_nil n.isDigit_digits rest,
    dropWhile_append_of_head n.isDigit_digits hrest, List.length_append, Nat.add_sub_cancel]

theorem stoi_digits
    : stoi n.digits
        =
      if n.value < 2 ^ 31 then .ok n.value else .error (.outOfRange (str "stoi")) := by
  have happend := stoInteger_append (str "stoi") (-2 ^ 31) (2 ^ 31 - 1) n.digits []
    n.digits_ne_nil n.isDigit_digits (by simp)
  rw [List.append_nil] at happend
  unfold stoi
  rw [happend]
  congr 1
  rw [eq_iff_iff]
  unfold value
  omega

end Numeral
end NetmonPlugins

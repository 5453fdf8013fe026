import Mathlib.Data.List.Nodup
import NetmonPlugins.Cxx.Bytes

/-!
This module contains the standard base64 encoding and its strict decoder: the decoder accepts
padding in the last quantum only and requires the bits the padding stands for to be zero.
-/

namespace NetmonPlugins
namespace Base64

def alphabet : Bytes :=
  str "ABCDEFGHIJKLMNOPQRSTUVWXYZabcdefghijklmnopqrstuvwxyz0123456789+/"

def pad : UInt8 := 61

def digit (value : Nat) : UInt8 := alphabet.getD value 0

def digitValue (c : UInt8) : Option Nat := alphabet.idxOf? c

def quantum (a b c : UInt8) : Nat := a.toNat * 65536 + b.toNat * 256 + c.toNat

def sextet (q : Nat) : Fin 4 → Nat
  | 0 => q / 262144 % 64
  | 1 => q / 4096 % 64
  | 2 => q / 64 % 64
  | 3 => q % 64

def encode : Bytes → Bytes
  | [] => []
  | [a] =>
    [digit (sextet (quantum a 0 0) 0), digit (sextet (quantum a 0 0) 1), pad, pad]
  | [a, b] =>
    [digit (sextet (quantum a b 0) 0), digit (sextet (quantum a b 0) 1),
      digit (sextet (quantum a b 0) 2), pad]
  | a :: b :: c :: rest =>
    [digit (sextet (quantum a b c) 0), digit (sextet (quantum a b c) 1),
      digit (sextet (quantum a b c) 2), digit (sextet (quantum a b c) 3)] ++ encode rest

def byte0 (w x : Nat) : UInt8 := UInt8.ofNat (w * 4 + x / 16)

def byte1 (x y : Nat) : UInt8 := UInt8.ofNat (x % 16 * 16 + y / 4)

def byte2 (y z : Nat) : UInt8 := UInt8.ofNat (y % 4 * 64 + z)

def decode : Bytes → Option Bytes
  | [] => some []
  | w :: x :: y :: z :: rest => do
    let w ← digitValue w
    let x ← digitValue x
    if z ≠ pad then
      let y ← digitValue y
      let z ← digitValue z
      let bytes ← decode rest
      some (byte0 w x :: byte1 x y :: byte2 y z :: bytes)
    else if y ≠ pad then
      let y ← digitValue y
      if y % 4 = 0 ∧ rest = [] then some [byte0 w x, byte1 x y] else none
    else
      if x % 16 = 0 ∧ rest = [] then some [byte0 w x] else none
  | _ => none

theorem sextet_lt (q : Nat) (i : Fin 4) : sextet q i < 64 := by
  unfold sextet
  split
  all_goals
    apply Nat.mod_lt
    omega

theorem nodup_alphabet : alphabet.Nodup := by decide +kernel

theorem digitValue_digit (v : Nat) (h : v < alphabet.length) : digitValue (digit v) = some v := by
  have hdigit : digit v = alphabet[v] := by
    rw [digit, List.getD_eq_getElem?_getD, List.getElem?_eq_getElem h, Option.getD_some]
  rw [digitValue, hdigit, List.idxOf?_eq_some_iff]
  refine ⟨h, rfl, ?_⟩
  intro j hj heq
  rw [nodup_alphabet.getElem_inj_iff] at heq
  omega

@[simp]
theorem digitValue_digit_sextet (q : Nat) (i : Fin 4)
    : digitValue (digit (sextet q i)) = some (sextet q i) := by
  have hlength : alphabet.length = 64 := by decide +kernel
  apply digitValue_digit
  rw [hlength]
  apply sextet_lt

@[simp]
theorem digit_sextet_ne_pad (q : Nat) (i : Fin 4) : digit (sextet q i) ≠ pad := by
  have hall : ∀ v : Fin 64, digit v ≠ pad := by decide +kernel
  apply hall ⟨sextet q i, sextet_lt q i⟩

theorem ofNat_eq_of_eq_toNat {n : Nat} {b : UInt8} (h : n = b.toNat) : UInt8.ofNat n = b := by
  rw [h]
  apply UInt8.ofNat_toNat

@[simp]
theorem byte0_sextet (a b c : UInt8)
    : byte0 (sextet (quantum a b c) 0) (sextet (quantum a b c) 1) = a := by
  apply ofNat_eq_of_eq_toNat
  have ha := a.toNat_lt
  have hb := b.toNat_lt
  have hc := c.toNat_lt
  simp only [sextet, quantum]
  omega

@[simp]
theorem byte1_sextet (a b c : UInt8)
    : byte1 (sextet (quantum a b c) 1) (sextet (quantum a b c) 2) = b := by
  apply ofNat_eq_of_eq_toNat
  have ha := a.toNat_lt
  have hb := b.toNat_lt
  have hc := c.toNat_lt
  simp only [sextet, quantum]
  omega

@[simp]
theorem byte2_sextet (a b c : UInt8)
    : byte2 (sextet (quantum a b c) 2) (sextet (quantum a b c) 3) = c := by
  apply ofNat_eq_of_eq_toNat
  have ha := a.toNat_lt
  have hb := b.toNat_lt
  have hc := c.toNat_lt
  simp only [sextet, quantum]
  omega

theorem sextet_one_mod_eq_zero (a : UInt8) : sextet (quantum a 0 0) 1 % 16 = 0 := by
  simp only [sextet, quantum, UInt8.toNat_zero]
  omega

theorem sextet_two_mod_eq_zero (a b : UInt8) : sextet (quantum a b 0) 2 % 4 = 0 := by
  simp only [sextet, quantum, UInt8.toNat_zero]
  omega

section

variable {c₀ c₁ c₂ c₃ : UInt8} {w x y z : Nat}

theorem decode_two (hw : digitValue c₀ = some w) (hx : digitValue c₁ = some x)
    (hzero : x % 16 = 0)
    : decode [c₀, c₁, pad, pad] = some [byte0 w x] := by
  simp [decode, hw, hx, hzero]

theorem decode_three (hw : digitValue c₀ = some w) (hx : digitValue c₁ = some x)
    (hy : digitValue c₂ = some y) (hpad : c₂ ≠ pad) (hzero : y % 4 = 0)
    : decode [c₀, c₁, c₂, pad] = some [byte0 w x, byte1 x y] := by
  simp [decode, hw, hx, hy, hpad, hzero]

theorem decode_four (hw : digitValue c₀ = some w) (hx : digitValue c₁ = some x)
    (hy : digitValue c₂ = some y) (hz : digitValue c₃ = some z) (hpad : c₃ ≠ pad) (rest : Bytes)
    : decode (c₀ :: c₁ :: c₂ :: c₃ :: rest)
        =
      (decode rest).map fun bytes => byte0 w x :: byte1 x y :: byte2 y z :: bytes := by
  simp only [decode, hw, hx, hy, hz, hpad, Option.bind_eq_bind, Option.bind_some, ne_eq,
    not_false_eq_true, ↓reduceIte]
  cases decode rest <;> rfl

end

theorem decode_encode (bytes : Bytes) : decode (encode bytes) = some bytes := by
  induction bytes using encode.induct with
  | case1 => rfl
  | case2 a =>
    rw [encode, decode_two (digitValue_digit_sextet _ _) (digitValue_digit_sextet _ _)
      (sextet_one_mod_eq_zero a), byte0_sextet]
  | case3 a b =>
    rw [encode, decode_three (digitValue_digit_sextet _ _) (digitValue_digit_sextet _ _)
      (digitValue_digit_sextet _ _) (digit_sextet_ne_pad _ _) (sextet_two_mod_eq_zero a b),
      byte0_sextet, byte1_sextet]
  | case4 a b c rest ih =>
    rw [encode, List.cons_append, List.cons_append, List.cons_append, List.cons_append,
      List.nil_append, decode_four (digitValue_digit_sextet _ _) (digitValue_digit_sextet _ _)
      (digitValue_digit_sextet _ _) (digitValue_digit_sextet _ _) (digit_sextet_ne_pad _ _), ih,
      Option.map_some, byte0_sextet, byte1_sextet, byte2_sextet]

end Base64
end NetmonPlugins

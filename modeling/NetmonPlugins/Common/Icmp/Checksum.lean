import Mathlib.Algebra.Group.Nat.Even
import Mathlib.Data.Int.Bitwise
import NetmonPlugins.Cxx.Integer
import NetmonPlugins.Rfc.Checksum

/-!
This module contains `in_cksum`, which `check_ping` and `check_fping` each have a copy of. It reads
the packet by words in the byte order of the host and sums them up as an `int`.
-/

namespace NetmonPlugins
namespace Icmp

inductive ByteOrder where
  | little
  | big
  deriving DecidableEq

/-- The `unsigned short` at two neighbouring bytes. -/
def load (order : ByteOrder) (b₀ b₁ : UInt8) : UInt16 :=
  match order with
  | .little => b₀.toUInt16 ||| b₁.toUInt16 <<< 8
  | .big => b₀.toUInt16 <<< 8 ||| b₁.toUInt16

/-- The bytes of an `unsigned short` in memory. -/
def store (order : ByteOrder) (word : UInt16) : Bytes :=
  match order with
  | .little => [word.toUInt8, (word >>> 8).toUInt8]
  | .big => [(word >>> 8).toUInt8, word.toUInt8]

/-- `0` after `*(unsigned char*)(&answer) = b`. -/
def storeFirst (order : ByteOrder) (b : UInt8) : UInt16 :=
  match order with
  | .little => b.toUInt16
  | .big => b.toUInt16 <<< 8

/-- The loop over `nleft` bytes; `none` if `sum` overflows. -/
def sumWords (order : ByteOrder) (sum : Int) : Bytes → Option Int
  | [] => some sum
  -- `nleft == 1`
  | [b] => addInt sum (storeFirst order b).toNat
  | b₀ :: b₁ :: rest => do
    let sum ← addInt sum (load order b₀ b₁).toNat
    sumWords order sum rest

def foldTwice (sum : Int) : Option Int := do
  let sum ← addInt (sum >>> (16 : Nat)) (sum.land 0xffff)
  addInt sum (sum >>> (16 : Nat))

def inCksum (order : ByteOrder) (addr : Bytes) : Option UInt16 := do
  let sum ← sumWords order 0 addr
  let sum ← foldTwice sum
  return UInt16.ofInt (~~~ sum)

/-- The words of a packet, the last byte of an odd number of bytes padded with zero. -/
def words (order : ByteOrder) : Bytes → List (BitVec 16)
  | [] => []
  | [b] => [word order b 0]
  | b₀ :: b₁ :: rest => word order b₀ b₁ :: words order rest
where
  word : ByteOrder → UInt8 → UInt8 → BitVec 16
    | .little, b₀, b₁ => b₁.toBitVec ++ b₀.toBitVec
    | .big, b₀, b₁ => b₀.toBitVec ++ b₁.toBitVec

open OnesComplement

section Words

variable (order : ByteOrder)

theorem toBitVec_or_shiftLeft (high low : UInt8)
    : (low.toUInt16 ||| high.toUInt16 <<< 8).toBitVec = high.toBitVec ++ low.toBitVec := by
  apply BitVec.eq_of_getLsbD_eq
  intro i hi
  rw [@BitVec.getLsbD_append 8 8 i high.toBitVec low.toBitVec]
  by_cases h : i < 8
  . simp [h, hi]
  . have hlow : low.toBitVec.getLsbD i = false := BitVec.getLsbD_of_ge _ _ (by omega)
    simp [h, hi, hlow]

theorem append_toUInt8 (answer : UInt16)
    : (answer >>> 8).toUInt8.toBitVec ++ answer.toUInt8.toBitVec = answer.toBitVec := by
  apply BitVec.eq_of_getLsbD_eq
  intro i hi
  rw [@BitVec.getLsbD_append 8 8 i (answer >>> 8).toUInt8.toBitVec answer.toUInt8.toBitVec]
  by_cases h : i < 8
  . simp [h]
  . have hback : 8 + (i - 8) = i := by omega
    have hrest : i - 8 < 8 := by omega
    simp [h, hback, hrest]

theorem toNat_load (b₀ b₁ : UInt8)
    : (load order b₀ b₁).toNat = (words.word order b₀ b₁).toNat := by
  rw [← UInt16.toNat_toBitVec]
  congr 1
  cases order with
  | little => exact toBitVec_or_shiftLeft b₁ b₀
  | big =>
    simp only [load]
    rw [UInt16.or_comm]
    exact toBitVec_or_shiftLeft b₀ b₁

theorem toNat_storeFirst (b : UInt8)
    : (storeFirst order b).toNat = (words.word order b 0).toNat := by
  rw [← toNat_load]
  cases order <;> simp [storeFirst, load]

theorem words_store (answer : UInt16) : words order (store order answer) = [answer.toBitVec] := by
  cases order <;> simp only [store, words, words.word, append_toUInt8]

theorem words_append {front : Bytes} (hfront : Even front.length) (back : Bytes)
    : words order (front ++ back) = words order front ++ words order back := by
  induction front using List.twoStepInduction with
  | nil => rfl
  | singleton b => exact absurd hfront (by simp)
  | cons_cons b₀ b₁ front ih _ =>
    have heven : Even front.length := by
      simpa [Nat.even_add_one] using hfront
    rw [List.cons_append, List.cons_append, words, words, ih heven, List.cons_append]

theorem total_words_le (buffer : Bytes)
    : total (words order buffer) ≤ 65535 * ((buffer.length + 1) / 2) := by
  induction buffer using List.twoStepInduction with
  | nil => rfl
  | singleton b =>
    have hword := (words.word order b 0).isLt
    simp only [words, total, List.map_cons, List.map_nil, List.sum_cons, List.sum_nil,
      List.length_singleton]
    omega
  | cons_cons b₀ b₁ rest ih _ =>
    have hword := (words.word order b₀ b₁).isLt
    simp only [words, total, List.map_cons, List.sum_cons, List.length_cons] at ih ⊢
    omega

/-- The words are not negative, so no partial sum exceeds the last one. -/
theorem sumWords_eq (buffer : Bytes) {sum : Nat} (h : sum + total (words order buffer) < 2 ^ 31)
    : sumWords order sum buffer = some ↑(sum + total (words order buffer)) := by
  induction buffer using List.twoStepInduction generalizing sum with
  | nil => rfl
  | singleton b =>
    simp only [words, total, List.map_cons, List.map_nil, List.sum_cons, List.sum_nil,
      Nat.add_zero] at h ⊢
    rw [sumWords, toNat_storeFirst, addInt_of_lt h]
  | cons_cons b₀ b₁ rest ih _ =>
    simp only [words, total, List.map_cons, List.sum_cons, ← Nat.add_assoc] at ih h ⊢
    rw [sumWords, toNat_load, addInt_of_lt (by omega), Option.bind_eq_bind, Option.bind_some, ih h]

end Words

/-- The first fold leaves at most one carry, and adding that one back leaves none. -/
theorem foldTwice_eq {n : Nat} (h : n < 2 ^ 31)
    : ∃ k : Nat, foldTwice n = some ↑k ∧ FullyFolded 16 n (k % 2 ^ 16) := by
  have hland : (n : Int).land 0xffff = ((n % 2 ^ 16 : Nat) : Int) := by
    have hand : n &&& 0xffff = n % 2 ^ 16 := Nat.and_two_pow_sub_one_eq_mod n 16
    rw [← hand]
    rfl
  have hfold : fold 16 n = n / 2 ^ 16 + n % 2 ^ 16 := rfl
  refine ⟨fold 16 n + fold 16 n / 2 ^ 16, ?_, Nat.mod_lt _ (by decide), 2, ?_⟩
  . have hshift (m : Nat) : (m : Int) >>> (16 : Nat) = ((m / 2 ^ 16 : Nat) : Int) := by
      rw [Int.shiftRight_eq_div_pow]
      norm_cast
    unfold foldTwice
    rw [hland, hshift, addInt_of_lt (by omega), Option.bind_eq_bind, Option.bind_some, hshift,
      ← hfold, addInt_of_lt (by omega)]
  . rw [Function.iterate_succ, Function.iterate_one, Function.comp_apply]
    show fold 16 n / 2 ^ 16 + fold 16 n % 2 ^ 16 = _
    omega

theorem toBitVec_ofInt (sum : Int) : (UInt16.ofInt sum).toBitVec = BitVec.ofInt 16 sum := by
  apply BitVec.eq_of_toNat_eq
  unfold UInt16.ofInt
  rw [UInt16.toNat_toBitVec, UInt16.toNat_ofNat', BitVec.toNat_ofInt]
  exact Nat.mod_eq_of_lt (by omega)

theorem ofInt_not {ws : List (BitVec 16)} {k : Nat} (h : FullyFolded 16 (total ws) (k % 2 ^ 16))
    : UInt16.ofInt (~~~ (k : Int)) = ⟨checksum ws⟩ := by
  have hword : BitVec.ofNat 16 k = OnesComplement.sum ws := by
    apply BitVec.eq_of_toNat_eq
    rw [BitVec.toNat_ofNat, h.eq_sum]
  -- `~sum` of a sum that is not negative is `-(sum + 1)`.
  have hnot : ~~~ (k : Int) = Int.negSucc k := rfl
  apply UInt16.toBitVec_inj.mp
  rw [hnot, toBitVec_ofInt, BitVec.ofInt_negSucc_eq_not_ofNat, hword]
  rfl

theorem inCksum_eq_some {order : ByteOrder} {addr : Bytes} {sum folded : Int}
    (hsum : sumWords order 0 addr = some sum) (hfold : foldTwice sum = some folded)
    : inCksum order addr = some (UInt16.ofInt (~~~ folded)) := by
  unfold inCksum
  simp only [hsum, hfold, Option.bind_eq_bind, Option.bind_some, Option.pure_def]

section Packet

variable (order : ByteOrder) {addr : Bytes} (h : addr.length ≤ 65535)
include h

theorem total_words_lt : total (words order addr) < 2 ^ 31 := by
  have hle := total_words_le order addr
  omega

/-- The running sum of a packet is in the range of `int`. -/
theorem sumWords_packet : sumWords order 0 addr = some ↑(total (words order addr)) := by
  have hlt : 0 + total (words order addr) < 2 ^ 31 := by
    rw [Nat.zero_add]
    exact total_words_lt order h
  have hsum := sumWords_eq order addr hlt
  rwa [Nat.zero_add] at hsum

theorem inCksum_packet : inCksum order addr = some ⟨checksum (words order addr)⟩ := by
  obtain ⟨k, hfold, hfolded⟩ := foldTwice_eq (total_words_lt order h)
  rw [inCksum_eq_some (sumWords_packet order h) hfold, ofInt_not hfolded]

end Packet

end Icmp
end NetmonPlugins

import Mathlib.Algebra.Order.Floor.Semiring
import Mathlib.Data.Rat.Floor
import Mathlib.Tactic.Linarith
import NetmonPlugins.Cxx.Bytes

/-!
This module contains the timestamps of NTP and of the time protocol: the seconds since 1900 modulo
2^32, with a fraction of 32 bits in NTP. An instant is given in seconds since 1970.
-/

namespace NetmonPlugins
namespace Ntp

/-- The four bytes of `n` modulo 2^32. -/
def bigEndian (n : Nat) : Bytes :=
  [UInt8.ofNat (n / 2 ^ 24), UInt8.ofNat (n / 2 ^ 16), UInt8.ofNat (n / 2 ^ 8), UInt8.ofNat n]

def seconds (instant : ℚ) : Nat := ⌊instant + 2208988800⌋₊

/-- The units of 2^-32 seconds since 1900. -/
def ticks (instant : ℚ) : Nat := ⌊(instant + 2208988800) * 2 ^ 32⌋₊

def timestamp (instant : ℚ) : Bytes :=
  bigEndian (ticks instant / 2 ^ 32) ++ bigEndian (ticks instant)

/-- The reply of the time protocol. -/
def time (instant : ℚ) : Bytes := bigEndian (seconds instant)

variable {instant : ℚ}

theorem seconds_near (h : -2208988800 ≤ instant)
    : (seconds instant : ℚ) - 2208988800 ≤ instant
        ∧ instant < (seconds instant : ℚ) - 2208988800 + 1 := by
  have hle : (seconds instant : ℚ) ≤ instant + 2208988800 := Nat.floor_le (by linarith)
  have hlt : instant + 2208988800 < seconds instant + 1 := Nat.lt_floor_add_one _
  constructor
  . linarith
  . linarith

theorem ticks_near (h : -2208988800 ≤ instant)
    : (ticks instant : ℚ) / 2 ^ 32 - 2208988800 ≤ instant
        ∧ instant < (ticks instant : ℚ) / 2 ^ 32 - 2208988800 + 1 / 2 ^ 32 := by
  have hnonneg : 0 ≤ (instant + 2208988800) * 2 ^ 32 := by
    apply mul_nonneg
    . linarith
    . norm_num
  have hle : (ticks instant : ℚ) ≤ (instant + 2208988800) * 2 ^ 32 := Nat.floor_le hnonneg
  have hlt : (instant + 2208988800) * 2 ^ 32 < ticks instant + 1 := Nat.lt_floor_add_one _
  constructor
  . linarith
  . linarith

end Ntp
end NetmonPlugins

import NetmonPlugins.Common.NtpClient.Impl
import NetmonPlugins.Rfc.Ntp

/-!
This module follows the timestamp of a server through the decoders of the NTP client. They take the
seconds since 1900 as they are, so they lose 2^32 seconds when the counter wraps around in 2036.
-/

namespace NetmonPlugins

section Assembly

theorem getD_substr (s : Bytes) (pos : Nat) {len k : Nat} (h : k < len)
    : (substr s pos len).getD k 0 = s.getD (pos + k) 0 := by
  unfold substr
  rw [List.getD_eq_getElem?_getD, List.getD_eq_getElem?_getD, List.getElem?_take_of_lt h,
    List.getElem?_drop]

theorem substr_of_append {s front back : Bytes} {pos m n : Nat} (hfront : front.length = m)
    (h : substr s pos (m + n) = front ++ back)
    : substr s pos m = front ∧ substr s (pos + m) n = back := by
  unfold substr at h ⊢
  constructor
  . have htake := congrArg (List.take m) h
    rwa [List.take_take, Nat.min_eq_left (Nat.le_add_right _ _), ← hfront, List.take_left,
      hfront] at htake
  . have hdrop := congrArg (List.drop m) h
    rwa [List.drop_take, Nat.add_sub_cancel_left, List.drop_drop, ← hfront, List.drop_left,
      hfront] at hdrop

theorem toNat_shiftLeft (b : UInt8) {i : UInt32} (h : i.toNat ≤ 24)
    : (b.toUInt32 <<< i).toNat = b.toNat <<< i.toNat := by
  have hb := b.toNat_lt
  have hlt : b.toNat * 2 ^ i.toNat < 2 ^ 32 := calc
    b.toNat * 2 ^ i.toNat ≤ b.toNat * 2 ^ 24 :=
      Nat.mul_le_mul_left _ (Nat.pow_le_pow_right (by decide) h)
    _ < 2 ^ 32 := by omega
  have hi : i.toNat % 32 = i.toNat := Nat.mod_eq_of_lt (by omega)
  rw [UInt32.toNat_shiftLeft, UInt8.toNat_toUInt32, hi, Nat.shiftLeft_eq, Nat.mod_eq_of_lt hlt]

theorem shiftLeft_or_byte (n : Nat) (b : UInt8) : n <<< 8 ||| b.toNat = n * 256 + b.toNat := by
  rw [← Nat.shiftLeft_add_eq_or_of_lt b.toNat_lt, Nat.shiftLeft_eq]

theorem toNat_assemble (a b c d : UInt8)
    : (a.toUInt32 <<< 24 ||| b.toUInt32 <<< 16 ||| c.toUInt32 <<< 8 ||| d.toUInt32).toNat
        =
      ((a.toNat * 256 + b.toNat) * 256 + c.toNat) * 256 + d.toNat := by
  rw [← shiftLeft_or_byte, ← shiftLeft_or_byte, ← shiftLeft_or_byte]
  simp only [UInt32.toNat_or, UInt8.toNat_toUInt32, Nat.shiftLeft_or_distrib, ← Nat.shiftLeft_add]
  rw [toNat_shiftLeft a (by decide), toNat_shiftLeft b (by decide), toNat_shiftLeft c (by decide)]
  rfl

end Assembly

namespace queryNtpOffset

def serverTime (response : Bytes) : Double :=
  ntpTimestampToUnix (word response 40) (word response 44)

theorem toNat_word {response : Bytes} {i n : Nat} (h : substr response i 4 = Ntp.bigEndian n)
    : (word response i).toNat = n % 2 ^ 32 := by
  have hget {k : Nat} (hk : k < 4) : response.getD (i + k) 0 = (Ntp.bigEndian n).getD k 0 := by
    rw [← h, getD_substr _ _ hk]
  have hzero := hget (k := 0) (by decide)
  rw [Nat.add_zero] at hzero
  unfold word
  rw [toNat_assemble, hzero, hget (by decide), hget (by decide), hget (by decide)]
  simp [Ntp.bigEndian]
  omega

theorem serverTime_eq {response : Bytes} {instant : ℚ}
    (h : substr response 40 8 = Ntp.timestamp instant)
    : serverTime response
        =
      .fin (((Ntp.ticks instant % 2 ^ 64 : Nat) : ℚ) / 2 ^ 32 - 2208988800) := by
  obtain ⟨hsec, hfrac⟩ : substr response 40 4 = Ntp.bigEndian (Ntp.ticks instant / 2 ^ 32)
      ∧ substr response 44 4 = Ntp.bigEndian (Ntp.ticks instant) :=
    substr_of_append rfl h
  have hsplit : Ntp.ticks instant % 2 ^ 64
      = Ntp.ticks instant / 2 ^ 32 % 2 ^ 32 * 2 ^ 32 + Ntp.ticks instant % 2 ^ 32 := by
    omega
  unfold serverTime ntpTimestampToUnix
  rw [toNat_word hsec, toNat_word hfrac, hsplit]
  generalize Ntp.ticks instant / 2 ^ 32 % 2 ^ 32 = sec
  generalize Ntp.ticks instant % 2 ^ 32 = frac
  simp only [Double.ofInt_eq_fin, Double.ofNat_eq_fin, Double.fin_sub_fin]
  rw [Double.fin_div_fin _ _ (by norm_num), Double.fin_add_fin, Double.fin.injEq]
  push_cast
  ring

end queryNtpOffset

open queryNtpOffset in
theorem queryTimeProtocolOffset.serverTime_eq {response : Bytes} {instant : ℚ}
    (h : substr response 0 4 = Ntp.time instant)
    : serverTime response = .fin (((Ntp.seconds instant % 2 ^ 32 : Nat) : ℚ) - 2208988800) := by
  unfold serverTime ntpTimestampToUnix
  rw [toNat_word h]
  generalize Ntp.seconds instant % 2 ^ 32 = sec
  simp only [Double.ofInt_eq_fin, Double.ofNat_eq_fin, Double.fin_sub_fin]
  rw [Double.fin_div_fin _ _ (by norm_num), Double.fin_add_fin, Double.fin.injEq]
  simp

/-- The number is the instant up to a tolerance. -/
def Double.Near (d : Double) (instant tolerance : ℚ) : Prop :=
  (d - .fin instant).abs ≤ .fin tolerance

instance (d : Double) (instant tolerance : ℚ) : Decidable (d.Near instant tolerance) :=
  inferInstanceAs (Decidable (_ ≤ _))

theorem Double.near_fin (q instant tolerance : ℚ)
    : (Double.fin q).Near instant tolerance ↔ |q - instant| ≤ tolerance := by
  unfold Double.Near
  rw [Double.fin_sub_fin]
  exact Double.fin_le_fin _ _

section Counter

variable {instant : ℚ} {count : Nat} (unit : Nat) (hunit : 0 < unit)
  (hle : (count : ℚ) / unit - 2208988800 ≤ instant)
  (hlt : instant < (count : ℚ) / unit - 2208988800 + 1 / unit)
include hunit hle hlt

/-- A counter that counts units of a second since 1900 wraps around 2^32 seconds later. -/
theorem count_lt_iff : count < 2 ^ 32 * unit ↔ instant < 2085978496 := by
  have hpos : (0 : ℚ) < unit := Nat.cast_pos.mpr hunit
  constructor
  . intro h
    have hnext : ((count : ℚ) + 1) / unit ≤ 2 ^ 32 := by
      rw [div_le_iff₀ hpos]
      exact_mod_cast h
    rw [add_div] at hnext
    linarith
  . intro h
    have hcount : (count : ℚ) / unit < 2 ^ 32 := by linarith
    rw [div_lt_iff₀ hpos] at hcount
    exact_mod_cast hcount

theorem wrapped_near_iff (hend : instant ≤ 4228588800)
    : |((count % (2 ^ 32 * unit) : Nat) : ℚ) / unit - 2208988800 - instant| ≤ 1 / unit
        ↔
      instant < 2085978496 := by
  have hpos : (0 : ℚ) < unit := Nat.cast_pos.mpr hunit
  have hiff := count_lt_iff unit hunit hle hlt
  by_cases hcount : count < 2 ^ 32 * unit
  . rw [Nat.mod_eq_of_lt hcount, abs_le]
    simp only [hiff.mp hcount, iff_true]
    constructor
    . linarith
    . have : (0 : ℚ) ≤ 1 / unit := by positivity
      linarith
  . have hnot : ¬ instant < 2085978496 := fun h => hcount (hiff.mpr h)
    have hwrapped : ((count % (2 ^ 32 * unit) : Nat) : ℚ) / unit = (count : ℚ) / unit - 2 ^ 32 := by
      have htwice : (count : ℚ) / unit < 2 ^ 33 := by linarith
      rw [div_lt_iff₀ hpos] at htwice
      have hlt' : count < 2 ^ 33 * unit := by exact_mod_cast htwice
      rw [Nat.mod_eq_sub_mod (by omega), Nat.mod_eq_of_lt (by omega), Nat.cast_sub (by omega),
        sub_div, Nat.cast_mul, mul_div_cancel_right₀ _ hpos.ne']
      norm_num
    have hone : (1 : ℚ) / unit ≤ 1 := by
      rw [div_le_one hpos]
      exact_mod_cast hunit
    simp only [hnot, iff_false, not_le]
    rw [hwrapped, lt_abs]
    right
    linarith

end Counter

/--
From 1970 to the start of 2104, the timestamp of a server is decoded to the instant it stands for if
and only if the counter has not wrapped around.
-/
theorem serverTime_near_iff {instant : ℚ} (hstart : 0 ≤ instant) (hend : instant ≤ 4228588800)
    {response reply : Bytes} (hntp : substr response 40 8 = Ntp.timestamp instant)
    (htime : substr reply 0 4 = Ntp.time instant)
    : ((queryNtpOffset.serverTime response).Near instant (1 / 2 ^ 32) ↔ instant < 2085978496)
        ∧
      ((queryTimeProtocolOffset.serverTime reply).Near instant 1 ↔ instant < 2085978496) := by
  constructor
  . have hnear := Ntp.ticks_near (by linarith : -2208988800 ≤ instant)
    rw [queryNtpOffset.serverTime_eq hntp, Double.near_fin]
    have hiff := wrapped_near_iff (2 ^ 32) (by decide) (by exact_mod_cast hnear.1)
      (by exact_mod_cast hnear.2) hend
    exact_mod_cast hiff
  . have hnear := Ntp.seconds_near (by linarith : -2208988800 ≤ instant)
    rw [queryTimeProtocolOffset.serverTime_eq htime, Double.near_fin]
    have hiff := wrapped_near_iff 1 (by decide) (by simpa using hnear.1)
      (by simpa using hnear.2) hend
    simpa using hiff

theorem serverTime_near_of_2023
    : (queryNtpOffset.serverTime (List.replicate 40 0 ++ [232, 254, 111, 128, 128, 0, 0, 0])).Near
          (1700000000 + 1 / 2) (1 / 2 ^ 32)
        ∧
      (queryTimeProtocolOffset.serverTime [232, 254, 111, 128]).Near (1700000000 + 1 / 2) 1 := by
  have hntp : substr (List.replicate 40 0 ++ [232, 254, 111, 128, 128, 0, 0, 0]) 40 8
      = Ntp.timestamp (1700000000 + 1 / 2) := by
    decide +kernel
  have htime : substr [232, 254, 111, 128] 0 4 = Ntp.time (1700000000 + 1 / 2) := by
    decide +kernel
  have hiff := serverTime_near_iff (by norm_num) (by norm_num) hntp htime
  exact ⟨hiff.1.mpr (by norm_num), hiff.2.mpr (by norm_num)⟩

/-- On 7 February 2036 the counter is zero again, and the decoders are back in 1900. -/
theorem serverTime_of_2036
    : (substr (List.replicate 48 0) 40 8 = Ntp.timestamp 2085978496
          ∧ queryNtpOffset.serverTime (List.replicate 48 0) = .fin (-2208988800)
          ∧ ¬ (queryNtpOffset.serverTime (List.replicate 48 0)).Near 2085978496 (1 / 2 ^ 32))
        ∧
      substr (List.replicate 4 0) 0 4 = Ntp.time 2085978496
        ∧ queryTimeProtocolOffset.serverTime (List.replicate 4 0) = .fin (-2208988800)
        ∧ ¬ (queryTimeProtocolOffset.serverTime (List.replicate 4 0)).Near 2085978496 1 := by
  decide +kernel

end NetmonPlugins

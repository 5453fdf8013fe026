import NetmonPlugins.Common.NtpClient.Authenticity
import NetmonPlugins.Common.NtpClient.Decoding

/-!
This module bounds the error of the offset that `queryNtpOffset` returns, by half of the time the
exchange takes and the unit of the timestamp.
-/

namespace NetmonPlugins
namespace queryNtpOffset

open Receiver

/--
The true instants of an exchange with a server whose clock is correct, in the era of NTP that ends
on 7 February 2036.
-/
structure Measurement where
  send : ℚ
  transmit : ℚ
  receive : ℚ
  -- What the local clock is ahead, throughout the exchange.
  error : ℚ
  send_le : send ≤ transmit
  le_receive : transmit ≤ receive
  le_transmit : -2208988800 ≤ transmit
  transmit_lt : transmit < 2085978496

namespace Measurement

def tolerance (m : Measurement) : ℚ := (m.receive - m.send) / 2 + 1 / 2 ^ 32

def Bounded (m : Measurement) (offset : Double) : Prop :=
  ∃ q, offset = .fin q
    ∧ |q - m.error| ≤ m.tolerance
    ∧ (m.tolerance < |q| → (0 < q ↔ 0 < m.error))

end Measurement

/-- The offset from the local readings, in seconds. -/
def midpointOffset (sendSeconds recvSeconds : Double) (response : Bytes) : Double :=
  (sendSeconds + recvSeconds) / 2 - serverTime response

theorem clockOffset_eq (sendTime recvTime : Timeval) (response : Bytes)
    : clockOffset sendTime recvTime response
        =
      midpointOffset (timevalToSeconds sendTime) (timevalToSeconds recvTime) response := rfl

theorem pos_iff_of_near {q error tolerance : ℚ} (hnear : |q - error| ≤ tolerance)
    (hlarge : tolerance < |q|)
    : 0 < q ↔ 0 < error := by
  have hnonneg : 0 ≤ tolerance := le_trans (abs_nonneg _) hnear
  rw [abs_le] at hnear
  rw [lt_abs] at hlarge
  cases hlarge with
  | inl hahead =>
    have hq : 0 < q := by linarith
    have herror : 0 < error := by linarith
    exact iff_of_true hq herror
  | inr hbehind =>
    have hq : ¬ 0 < q := by linarith
    have herror : ¬ 0 < error := by linarith
    exact iff_of_false hq herror

theorem midpointOffset_bounded (m : Measurement) {response : Bytes}
    (h : substr response 40 8 = Ntp.timestamp m.transmit)
    : m.Bounded
        (midpointOffset (.fin (m.send + m.error)) (.fin (m.receive + m.error)) response) := by
  have hticks := Ntp.ticks_near m.le_transmit
  have hlt : Ntp.ticks m.transmit < 2 ^ 32 * 2 ^ 32 :=
    (count_lt_iff (2 ^ 32) (by decide) (by exact_mod_cast hticks.1)
      (by exact_mod_cast hticks.2)).mpr m.transmit_lt
  have hmod : Ntp.ticks m.transmit % 2 ^ 64 = Ntp.ticks m.transmit := Nat.mod_eq_of_lt hlt
  unfold midpointOffset
  rw [serverTime_eq h, hmod, Double.fin_add_fin, Double.ofNat_eq_fin,
    Double.fin_div_fin _ _ (by norm_num), Double.fin_sub_fin]
  generalize hq : (m.send + m.error + (m.receive + m.error)) / ((2 : Nat) : ℚ)
    - ((Ntp.ticks m.transmit : ℚ) / 2 ^ 32 - 2208988800) = q
  have hnear : |q - m.error| ≤ m.tolerance := by
    have hsend := m.send_le
    have hreceive := m.le_receive
    push_cast at hq
    unfold Measurement.tolerance
    rw [abs_le]
    constructor
    . linarith
    . linarith
  exact ⟨q, rfl, hnear, pos_iff_of_near hnear⟩

theorem offset_bounded (m : Measurement)
    : (∀ response, substr response 40 8 = Ntp.timestamp m.transmit
          → m.Bounded
            (midpointOffset (.fin (m.send + m.error)) (.fin (m.receive + m.error)) response))
        ∧
      ∀ (α : Type u) (system : System α) (host : Bytes) (port timeoutSeconds : Int)
          (sendTime recvTime : Timeval) (datagram : Datagram α) (result : NtpQueryResult),
        system.sendTime = some sendTime
          → system.recvTime = some recvTime
          → timevalToSeconds sendTime = .fin (m.send + m.error)
          → timevalToSeconds recvTime = .fin (m.receive + m.error)
          → substr datagram.data 40 8 = Ntp.timestamp m.transmit
          → Ends (queryNtpOffset system host port timeoutSeconds) [some datagram] result
          → result.ok = true ∧ m.Bounded result.offset_seconds := by
  refine ⟨fun response => midpointOffset_bounded m, ?_⟩
  intro α system host port timeoutSeconds sendTime recvTime datagram result hsend hrecv hsent
    hreceived hdata hends
  rw [← map_id (queryNtpOffset system host port timeoutSeconds)] at hends
  have hlength : 48 ≤ datagram.data.length := by
    have hlength := congrArg List.length hdata
    simp only [substr, Ntp.timestamp, Ntp.bigEndian, List.length_take, List.length_drop,
      List.length_append, List.length_cons, List.length_nil] at hlength
    omega
  have htaken : substr (datagram.data.take 48) 40 8 = Ntp.timestamp m.transmit := by
    rw [← hdata]
    simp only [substr, List.drop_take, List.take_take]
    rfl
  rcases result_of_ends hends with ⟨hnone, _⟩ | ⟨_, sendTime', taken, _, hsend', htook, rfl⟩
  . contradiction
  . rw [hsend, Option.some.injEq] at hsend'
    simp only [List.cons.injEq, and_true] at htook
    subst hsend' htook
    have hlong : ¬ (datagram.data.take 48).length < 48 := by
      rw [List.length_take]
      omega
    simp only [Option.map_some, receive, hrecv, if_neg hlong, id_eq]
    refine ⟨rfl, ?_⟩
    show m.Bounded (clockOffset sendTime recvTime _)
    rw [clockOffset_eq, hsent, hreceived]
    exact midpointOffset_bounded m htaken

def halfSecondAhead : Measurement where
  send := 1700000000
  transmit := 1700000000 + 1 / 16
  receive := 1700000000 + 1 / 5
  error := 1 / 2
  send_le := by norm_num
  le_receive := by norm_num
  le_transmit := by norm_num
  transmit_lt := by norm_num

def aheadSystem : System Nat :=
  { localSystem with
    sendTime := some { tv_sec := 1700000000, tv_usec := 500000 }
    recvTime := some { tv_sec := 1700000000, tv_usec := 700000 } }

def sixteenthReply : Bytes :=
  36 :: 2 :: List.replicate 38 0 ++ [232, 254, 111, 128, 16, 0, 0, 0]

theorem offset_bounded_of_halfSecond
    : ∃ result, Ends (queryNtpOffset aheadSystem (str "ntp") 123 10)
          [some { source := 1, data := sixteenthReply }] result
        ∧ result.ok = true
        ∧ halfSecondAhead.Bounded result.offset_seconds := by
  have hends : Ends (queryNtpOffset aheadSystem (str "ntp") 123 10)
      [some { source := 1, data := sixteenthReply }] _ :=
    .of_exec [.send true, .arrive { source := 1, data := sixteenthReply }, .receive] rfl rfl rfl
  have hresult := (offset_bounded halfSecondAhead).2 Nat aheadSystem (str "ntp") 123 10 _ _ _ _
    rfl rfl (by decide +kernel) (by decide +kernel) (by decide +kernel) hends
  exact ⟨_, hends, hresult⟩

end queryNtpOffset
end NetmonPlugins

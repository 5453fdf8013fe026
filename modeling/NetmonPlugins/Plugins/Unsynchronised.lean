import NetmonPlugins.Common.NtpClient.Authenticity
import NetmonPlugins.Plugins.Ntp.Impl
import NetmonPlugins.Plugins.NtpPeer.Impl
import NetmonPlugins.Plugins.NtpTime.Impl

/-!
This module contains what `check_ntp`, `check_ntp_time` and `check_ntp_peer` make of a reply whose
sender says that it is not synchronised.
-/

namespace NetmonPlugins

open queryNtpOffset Receiver

/-- The stratum is 0, or the leap indicator says that the clock is not synchronised. -/
def IsUnsynchronised (reply : Bytes) : Prop := reply.getD 1 0 = 0 ∨ reply.getD 0 0 >>> 6 = 3

instance (reply : Bytes) : Decidable (IsUnsynchronised reply) := inferInstanceAs (Decidable (_ ∨ _))

def Exceeds (system : System α) (reply : Bytes) (threshold : Double) : Prop :=
  ∃ sendTime recvTime, system.sendTime = some sendTime ∧ system.recvTime = some recvTime
    ∧ threshold > 0 ∧ (clockOffset sendTime recvTime reply).abs > threshold

theorem result_of_reply {system : System α} {host : Bytes} {port timeoutSeconds : Int}
    {f : NtpQueryResult → β} {reply : Datagram α} {result : β}
    (h : Ends ((queryNtpOffset system host port timeoutSeconds).map f) [some reply] result)
    (hlength : reply.data.length = 48)
    : ∃ sendTime, system.sendTime = some sendTime
        ∧ result = f (receive system sendTime (some reply.data)) := by
  rcases result_of_ends h with ⟨hnil, _⟩ | ⟨addr, sendTime, taken, _, hsend, htaken, hresult⟩
  . contradiction
  . simp only [List.cons.injEq, and_true] at htaken
    rw [← htaken, Option.map_some, List.take_of_length_le (Nat.le_of_eq hlength)] at hresult
    exact ⟨sendTime, hsend, hresult⟩

theorem receive_of_reply (system : System α) {reply : Bytes} (hlength : reply.length = 48)
    : (system.recvTime = none
          ∧ ∀ sendTime, (receive system sendTime (some reply)).ok = false)
        ∨
      ∃ recvTime, system.recvTime = some recvTime
        ∧ ∀ sendTime, receive system sendTime (some reply)
          = evaluate sendTime recvTime reply := by
  unfold receive
  cases system.recvTime with
  | none => exact .inl ⟨rfl, fun _ => rfl⟩
  | some recvTime =>
    refine .inr ⟨recvTime, rfl, ?_⟩
    intro sendTime
    simp only [hlength, Nat.lt_irrefl, ↓reduceIte]

theorem offsetCode_ne_ok_iff (warningOffset criticalOffset offset : Double)
    : offsetCode warningOffset criticalOffset offset ≠ .ok
        ↔
      (criticalOffset > 0 ∧ offset.abs > criticalOffset)
        ∨ (warningOffset > 0 ∧ offset.abs > warningOffset) := by
  unfold offsetCode
  rw [ite_ne_ok_iff (by decide), ite_ne_ok_iff (by decide)]
  simp only [ne_eq, not_true_eq_false, or_false]

theorem exceeds_iff {system : System α} {sendTime recvTime : Timeval} {reply : Bytes}
    (hsend : system.sendTime = some sendTime) (hrecv : system.recvTime = some recvTime)
    (threshold : Double)
    : Exceeds system reply threshold
        ↔
      threshold > 0 ∧ (clockOffset sendTime recvTime reply).abs > threshold := by
  simp only [Exceeds, hsend, hrecv, Option.some.injEq, exists_and_left, exists_eq_left']

theorem code_iff_of_offsetCode {system : System α} {host : Bytes} {port timeoutSeconds : Int}
    {judge : NtpQueryResult → PluginResult} {warningOffset criticalOffset : Double}
    {reply : Datagram α} {result : PluginResult}
    (hfailed : ∀ query, query.ok = false → (judge query).code = .critical)
    (hcode : ∀ query, query.ok = true
      → (judge query).code = offsetCode warningOffset criticalOffset query.offset_seconds)
    (h : Ends ((queryNtpOffset system host port timeoutSeconds).map judge) [some reply] result)
    (hlength : reply.data.length = 48)
    : result.code ≠ .ok
        ↔
      system.recvTime = none ∨ Exceeds system reply.data criticalOffset
        ∨ Exceeds system reply.data warningOffset := by
  obtain ⟨sendTime, hsend, rfl⟩ := result_of_reply h hlength
  rcases receive_of_reply system hlength with ⟨hnone, hok⟩ | ⟨recvTime, hrecv, hevaluate⟩
  . rw [hfailed _ (hok sendTime)]
    exact iff_of_true (by decide) (.inl hnone)
  . rw [hevaluate sendTime, exceeds_iff hsend hrecv, exceeds_iff hsend hrecv,
      ← offsetCode_ne_ok_iff, hcode _ rfl, hrecv]
    simp [evaluate]

theorem NtpPlugin.code_iff (system : System α) (config : Config) (reply : Datagram α)
    (hlength : reply.data.length = 48) (result : PluginResult)
    (h : Ends (check system config) [some reply] result)
    : result.code ≠ .ok
        ↔
      system.recvTime = none ∨ Exceeds system reply.data config.criticalOffset
        ∨ Exceeds system reply.data config.warningOffset := by
  apply code_iff_of_offsetCode _ _ h hlength
  . intro query hok
    simp [judge, hok]
  . intro query hok
    simp [judge, hok]

theorem NtpTimePlugin.code_iff (system : System α) (config : Config) (reply : Datagram α)
    (hlength : reply.data.length = 48) (result : PluginResult)
    (h : Ends (check system config) [some reply] result)
    : result.code ≠ .ok
        ↔
      system.recvTime = none ∨ Exceeds system reply.data config.criticalOffset
        ∨ Exceeds system reply.data config.warningOffset := by
  apply code_iff_of_offsetCode _ _ h hlength
  . intro query hok
    simp [judge, hok]
  . intro query hok
    simp [judge, hok]

namespace NtpPeerPlugin

def JudgesStratum (config : Config) (stratum : Int) : Prop :=
  stratum = 0 ∨ (config.criticalStratum > 0 ∧ stratum ≥ config.criticalStratum)
    ∨ (config.warningStratum > 0 ∧ stratum ≥ config.warningStratum)

theorem stratumCode_ne_ok_iff (config : Config) (stratum : Int)
    : stratumCode config stratum ≠ .ok ↔ JudgesStratum config stratum := by
  unfold stratumCode JudgesStratum
  rw [ite_ne_ok_iff (by decide), ite_ne_ok_iff (by decide), ite_ne_ok_iff (by decide)]
  simp only [ne_eq, not_true_eq_false, or_false]

theorem code_iff (system : System α) (config : Config) (reply : Datagram α)
    (hlength : reply.data.length = 48) (result : PluginResult)
    (h : Ends (check system config) [some reply] result)
    : result.code ≠ .ok
        ↔
      system.recvTime = none ∨ JudgesStratum config (reply.data.getD 1 0).toNat := by
  obtain ⟨sendTime, hsend, rfl⟩ := result_of_reply h hlength
  rcases receive_of_reply system hlength with ⟨hnone, hok⟩ | ⟨recvTime, hrecv, hevaluate⟩
  . simp [judge, hok sendTime, hnone]
  . rw [hevaluate sendTime, ← stratumCode_ne_ok_iff]
    simp [judge, evaluate, hrecv]

end NtpPeerPlugin

theorem code_of_unsynchronised_iff (system : System α) (ntp : NtpPlugin.Config)
    (ntpTime : NtpTimePlugin.Config) (ntpPeer : NtpPeerPlugin.Config) (reply : Datagram α)
    (hlength : reply.data.length = 48) (_hunsynchronised : IsUnsynchronised reply.data)
    : (∀ result, Ends (NtpPlugin.check system ntp) [some reply] result →
          (result.code ≠ .ok ↔ system.recvTime = none
            ∨ Exceeds system reply.data ntp.criticalOffset
            ∨ Exceeds system reply.data ntp.warningOffset))
        ∧ (∀ result, Ends (NtpTimePlugin.check system ntpTime) [some reply] result →
          (result.code ≠ .ok ↔ system.recvTime = none
            ∨ Exceeds system reply.data ntpTime.criticalOffset
            ∨ Exceeds system reply.data ntpTime.warningOffset))
        ∧ (∀ result, Ends (NtpPeerPlugin.check system ntpPeer) [some reply] result →
          (result.code ≠ .ok ↔ system.recvTime = none
            ∨ NtpPeerPlugin.JudgesStratum ntpPeer (reply.data.getD 1 0).toNat)) := by
  refine ⟨?_, ?_, ?_⟩
  . apply NtpPlugin.code_iff system ntp reply hlength
  . apply NtpTimePlugin.code_iff system ntpTime reply hlength
  . apply NtpPeerPlugin.code_iff system ntpPeer reply hlength

/-- A reply of stratum 0, which names no reference clock. -/
def unspecified : Datagram Nat :=
  { source := 1, data := 36 :: 0 :: List.replicate 38 0 ++ [232, 254, 111, 128, 0, 0, 0, 0] }

theorem code_of_unspecified
    : ∃ result, Ends (NtpPeerPlugin.check localSystem {}) [some unspecified] result
        ∧ result.code ≠ .ok := by
  have hends : Ends (NtpPeerPlugin.check localSystem {}) [some unspecified] _ :=
    .of_exec [.send true, .arrive unspecified, .receive] rfl rfl rfl
  refine ⟨_, hends, ?_⟩
  apply ((code_of_unsynchronised_iff localSystem {} {} {} unspecified (by decide) (by decide)).2.2 _
    hends).mpr
  exact .inr (.inl rfl)

/-- The leap indicator is 3, and the timestamp is close to the local time. -/
def alarm : Datagram Nat :=
  { source := 1, data := 228 :: 2 :: List.replicate 38 0 ++ [232, 254, 111, 128, 0, 0, 0, 0] }

theorem ok_of_alarm
    : alarm.data.length = 48 ∧ IsUnsynchronised alarm.data
        ∧ (∃ result, Ends (NtpPlugin.check localSystem {}) [some alarm] result
          ∧ result.code = .ok)
        ∧ (∃ result, Ends (NtpTimePlugin.check localSystem {}) [some alarm] result
          ∧ result.code = .ok)
        ∧ ∃ result, Ends (NtpPeerPlugin.check localSystem {}) [some alarm] result
          ∧ result.code = .ok := by
  refine ⟨by decide, by decide, ?_, ?_, ?_⟩
  . exact ⟨_, .of_exec [.send true, .arrive alarm, .receive] rfl rfl rfl, by decide +kernel⟩
  . exact ⟨_, .of_exec [.send true, .arrive alarm, .receive] rfl rfl rfl, by decide +kernel⟩
  . exact ⟨_, .of_exec [.send true, .arrive alarm, .receive] rfl rfl rfl, by decide +kernel⟩

end NetmonPlugins

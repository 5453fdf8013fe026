import NetmonPlugins.Common.NtpClient.Run

/-!
This module determines when the answer of `queryNtpOffset` is that of the server it has asked.
-/

namespace NetmonPlugins
namespace queryNtpOffset

open Receiver

def IsServerMode (data : Bytes) : Prop := data.getD 0 0 &&& 7 = 4

instance (data : Bytes) : Decidable (IsServerMode data) := inferInstanceAs (Decidable (_ = _))

def IsGenuine (system : System α) (host : Bytes) (port : Int) (datagram : Datagram α) : Prop :=
  createUdpSocket system host port = .ok datagram.source ∧ IsServerMode datagram.data

theorem ok_receive_iff (system : System α) (sendTime : Timeval) (datagram : Datagram α)
    : (receive system sendTime (some (datagram.data.take 48))).ok = true
        ↔
      system.recvTime ≠ none ∧ 48 ≤ datagram.data.length := by
  unfold receive
  cases system.recvTime with
  | none => simp
  | some recvTime =>
    simp only [List.length_take, ne_eq, reduceCtorEq, not_false_eq_true, true_and]
    split
    . next hshort =>
      simp only [Bool.false_eq_true, false_iff]
      omega
    . next hlong =>
      simp only [evaluate, true_iff]
      omega

theorem authentic_iff (system : System α) (host : Bytes) (port timeoutSeconds : Int)
    (received : List (Option (Datagram α))) (result : NtpQueryResult)
    (h : Ends (queryNtpOffset system host port timeoutSeconds) received result)
    : (result.ok = true → ∃ datagram, received = [some datagram]
          ∧ IsGenuine system host port datagram)
        ↔
      ∀ datagram, received = [some datagram] →
        IsGenuine system host port datagram ∨ datagram.data.length < 48
          ∨ system.recvTime = none := by
  rw [← map_id (queryNtpOffset system host port timeoutSeconds)] at h
  rcases result_of_ends h with
    ⟨rfl, error, rfl⟩ | ⟨addr, sendTime, taken, _, _, rfl, rfl⟩
  . simp
  . cases taken with
    | none =>
      have hok : (receive system sendTime none).ok = false := by
        unfold receive
        split
        . rfl
        . rfl
      simp [hok]
    | some datagram =>
      simp only [Option.map_some, id_eq, ok_receive_iff, List.cons.injEq, Option.some.injEq,
        and_true, exists_eq_left', forall_eq', ← not_lt]
      tauto

def localSystem : System Nat where
  getaddrinfo _ _ := .ok ({ address := 1, socket := true }, [])
  setSocketTimeout _ := true
  sendTime := some { tv_sec := 1700000000, tv_usec := 0 }
  recvTime := some { tv_sec := 1700000000, tv_usec := 0 }

/-- A reply of stratum 2 whose transmit timestamp is 1700000000 seconds of Unix time. -/
def serverReply : Bytes := 36 :: 2 :: List.replicate 38 0 ++ [232, 254, 111, 128, 0, 0, 0, 0]

theorem authentic_of_server
    : ∃ result, Ends (queryNtpOffset localSystem (str "ntp") 123 10)
          [some { source := 1, data := serverReply }] result
        ∧ result.ok = true
        ∧ ∃ datagram, [some { source := 1, data := serverReply }] = [some datagram]
          ∧ IsGenuine localSystem (str "ntp") 123 datagram := by
  have hends : Ends (queryNtpOffset localSystem (str "ntp") 123 10)
      [some { source := 1, data := serverReply }] _ :=
    .of_exec [.send true, .arrive { source := 1, data := serverReply }, .receive] rfl rfl rfl
  refine ⟨_, hends, rfl, ?_⟩
  apply (authentic_iff localSystem (str "ntp") 123 10 _ _ hends).mpr
  . intro datagram hdatagram
    simp only [List.cons.injEq, Option.some.injEq, and_true] at hdatagram
    rw [← hdatagram]
    exact .inl ⟨rfl, by decide⟩
  . rfl

/-- Another host is quicker than the server. -/
theorem ok_of_stranger
    : ∃ result, Ends (queryNtpOffset localSystem (str "ntp") 123 10)
          [some { source := 2, data := serverReply }] result
        ∧ result.ok = true
        ∧ createUdpSocket localSystem (str "ntp") 123 = .ok 1
        ∧ ¬ ∃ datagram, [some { source := 2, data := serverReply }] = [some datagram]
          ∧ IsGenuine localSystem (str "ntp") 123 datagram := by
  have hends : Ends (queryNtpOffset localSystem (str "ntp") 123 10)
      [some { source := 2, data := serverReply }] _ :=
    .of_exec [.send true, .arrive { source := 2, data := serverReply },
      .arrive { source := 1, data := serverReply }, .receive] rfl rfl rfl
  refine ⟨_, hends, rfl, rfl, ?_⟩
  rintro ⟨datagram, hdatagram, hsource, _⟩
  simp only [List.cons.injEq, Option.some.injEq, and_true] at hdatagram
  rw [← hdatagram] at hsource
  have hfalse : (1 : Nat) = 2 := Except.ok.inj hsource
  contradiction

end queryNtpOffset
end NetmonPlugins

import NetmonPlugins.Common.Icmp.Checksum
import NetmonPlugins.Common.Icmp.Run
import NetmonPlugins.Plugins.Fping.Impl
import NetmonPlugins.Plugins.Ping.Impl

/-!
This module compares what `check_ping` and `check_fping` report about a run with what the target
has answered in it, and determines the checksum that they put into the field of an echo request
after they have set the field to zero.
-/

namespace NetmonPlugins

open Icmp

namespace Icmp

def EchoRun.trueLoss (run : EchoRun) (s : State) : Double :=
  (.ofInt (run.count - (run.answered s).card) * 100) / .ofInt run.count

theorem packetLoss_mono (totals : Totals) (count : Nat) (hcount : 0 < count) (n : Nat)
    (h : totals.packetsReceived ≤ n)
    : (.ofInt (count - n) * 100) / .ofInt count ≤ (totals.result count).packetLoss := by
  have hpos : 0 < (count : ℚ) := by exact_mod_cast hcount
  have hne : ((count : ℤ) : ℚ) ≠ 0 := by
    rw [Int.cast_natCast]
    apply ne_of_gt hpos
  have hle : (totals.packetsReceived : ℚ) ≤ n := by exact_mod_cast h
  unfold Totals.result
  simp only [Double.ofInt_eq_fin, Double.ofNat_eq_fin, Double.fin_mul_fin]
  rw [Double.fin_div_fin _ _ hne, Double.fin_div_fin _ _ hne, Double.fin_le_fin]
  rw [Int.cast_natCast]
  apply div_le_div_of_nonneg_right _ hpos.le
  push_cast
  linarith

theorem pingHost_of_finished {run : EchoRun} {s : State} (h : s.outcomes.length = run.count)
    (host : Bytes)
    : pingHost s.network host run.count = .ok (s.totals.result run.count) := by
  unfold pingHost State.totals
  rw [h]
  rfl

end Icmp

theorem packetsReceived_le_answered (run : EchoRun) (s : State)
    (h : Reaches (Icmp.step run) run.CountsReply {} s)
    : s.totals.packetsReceived ≤ (run.answered s).card
        ∧
      (s.outcomes.length = run.count
        → ∀ host timeout, ∃ result,
            PingPlugin.pingHost s.network host run.count timeout = .ok result
              ∧
            FpingPlugin.pingHost s.network host run.count timeout = .ok result
              ∧
            result.packetsReceived ≤ (run.answered s).card
              ∧
            (0 < run.count → run.trueLoss s ≤ result.packetLoss)) := by
  have hle := (Inv.of_reaches h).packetsReceived_le
  constructor
  . exact hle
  . intro hfinished host timeout
    exists s.totals.result run.count
    constructor
    . apply pingHost_of_finished hfinished
    constructor
    . apply pingHost_of_finished hfinished
    constructor
    . apply hle
    . intro hcount
      apply packetLoss_mono s.totals run.count hcount _ hle

def oneProbe : EchoRun where
  target := 1
  id := 77
  count := 1

def reply : Datagram where
  source := 1
  type := 0
  code := 0
  id := 77
  seq := 0

def answeredState : State where
  sent := [reply]
  queue := []
  taken := [reply]
  outcomes := [.reply ⟨0, 0⟩ ⟨0, 20000⟩]

theorem answeredState_reaches
    : Reaches (Icmp.step oneProbe) oneProbe.CountsReply {} answeredState := by
  have hsend : Reaches (Icmp.step oneProbe) oneProbe.CountsReply {} { waiting := true } := by
    apply Reaches.tail .send .refl
    . intro _ _ _ _ ha
      contradiction
    . rfl
  have hemit : Reaches (Icmp.step oneProbe) oneProbe.CountsReply {}
      { sent := [reply], waiting := true } := by
    apply Reaches.tail (.emit reply) hsend
    . intro _ _ _ _ ha
      contradiction
    . rfl
  have hdeliver : Reaches (Icmp.step oneProbe) oneProbe.CountsReply {}
      { sent := [reply], queue := [reply], waiting := true } := by
    apply Reaches.tail (.deliver reply) hemit
    . intro _ _ _ _ ha
      contradiction
    . rfl
  apply Reaches.tail (.receive ⟨0, 0⟩ ⟨0, 20000⟩) hdeliver
  . intro _ _ d queue _ hqueue
    rw [List.cons.injEq] at hqueue
    rw [← hqueue.1]
    decide
  . rfl

theorem packetsReceived_le_answered_of_reply
    : answeredState.totals.packetsReceived = 1
        ∧
      answeredState.totals.packetsReceived ≤ (oneProbe.answered answeredState).card := by
  constructor
  . rfl
  . apply (packetsReceived_le_answered oneProbe answeredState answeredState_reaches).1

def foreignRequest : Datagram where
  source := 2
  type := 8
  code := 0
  id := 5
  seq := 0

def deceivedState : State where
  sent := [foreignRequest]
  queue := []
  taken := [foreignRequest]
  outcomes := [.reply ⟨0, 0⟩ ⟨0, 20000⟩]

theorem packetsReceived_of_foreignRequest
    : Reaches (Icmp.step oneProbe) (fun _ _ => True) {} deceivedState
        ∧
      (oneProbe.answered deceivedState).card = 0
        ∧
      PingPlugin.pingHost deceivedState.network (str "gateway") 1 10
        = .ok { packetsSent := 1, packetsReceived := 1, minRTT := 20, maxRTT := 20, avgRTT := 20
                packetLoss := 0 }
        ∧
      FpingPlugin.pingHost deceivedState.network (str "gateway") 1 10
        = .ok { packetsSent := 1, packetsReceived := 1, minRTT := 20, maxRTT := 20, avgRTT := 20
                packetLoss := 0 } := by
  constructor
  . apply Reaches.of_exec
      [.send, .emit foreignRequest, .deliver foreignRequest, .receive ⟨0, 0⟩ ⟨0, 20000⟩]
    . intro _ _
      trivial
    . exact .refl
    . rfl
  constructor
  . decide
  constructor
  . decide +kernel
  . decide +kernel

open OnesComplement

def PingPlugin.inCksum (order : ByteOrder) (addr : Bytes) : Option UInt16 :=
  Icmp.inCksum order addr

def FpingPlugin.inCksum (order : ByteOrder) (addr : Bytes) : Option UInt16 :=
  Icmp.inCksum order addr

theorem sum_words_store (order : ByteOrder) {front : Bytes} (hfront : Even front.length)
    (back : Bytes)
    : OnesComplement.sum (words order
        (front ++ store order ⟨checksum (words order (front ++ 0 :: 0 :: back))⟩ ++ back))
        =
      BitVec.allOnes 16 := by
  have hzero : words order (0 :: 0 :: back) = 0 :: words order back := by
    cases order <;> rfl
  have hstore (answer : UInt16) : Even (front ++ store order answer).length := by
    rw [List.length_append, Nat.even_add]
    cases order <;> simp [store, hfront]
  rw [words_append order (hstore _), words_append order hfront, words_append order hfront,
    words_store, hzero, List.append_assoc, List.singleton_append]
  exact sum_checksum (by decide) (words order front) (words order back)

theorem inCksum_rfc1071 (order : ByteOrder) (packet : Bytes) (h : packet.length ≤ 65535)
    : ∃ (sum folded : Nat) (answer : UInt16),
        sumWords order 0 packet = some ↑sum
          ∧ sum = total (words order packet)
          ∧ foldTwice sum = some ↑folded
          ∧ FullyFolded 16 sum (folded % 2 ^ 16)
          ∧ PingPlugin.inCksum order packet = some answer
          ∧ FpingPlugin.inCksum order packet = some answer
          ∧ answer.toBitVec = checksum (words order packet)
          ∧ ∀ front back, packet = front ++ 0 :: 0 :: back
              → Even front.length
              → OnesComplement.sum (words order (front ++ store order answer ++ back))
                = 0xFFFF := by
  obtain ⟨folded, hfold, hfolded⟩ := foldTwice_eq (total_words_lt order h)
  have hanswer := inCksum_packet order h
  refine ⟨_, folded, _, sumWords_packet order h, rfl, hfold, hfolded, hanswer, hanswer, rfl, ?_⟩
  rintro front back rfl hfront
  exact sum_words_store order hfront back

theorem inCksum_rfc1071_echoRequest
    : ∃ answer : UInt16,
        PingPlugin.inCksum .little [8, 0, 0, 0, 0x12, 0x34, 0, 1] = some answer
          ∧ OnesComplement.sum
              (words .little ([8, 0] ++ store .little answer ++ [0x12, 0x34, 0, 1])) = 0xFFFF := by
  obtain ⟨_, _, answer, -, -, -, -, hping, -, -, hsum⟩ :=
    inCksum_rfc1071 .little [8, 0, 0, 0, 0x12, 0x34, 0, 1] (by decide)
  exact ⟨answer, hping, hsum [8, 0] [0x12, 0x34, 0, 1] rfl (by decide)⟩

example : PingPlugin.inCksum .little [8, 0, 0, 0, 0x12, 0x34, 0, 1] = some 0xCAE5 := by
  decide +kernel

end NetmonPlugins

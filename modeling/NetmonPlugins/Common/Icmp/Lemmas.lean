import NetmonPlugins.Common.Icmp.Impl

/-!
This module contains the totals and the statistics of a run without replies, and the system calls of
a probe, below the probes as the loop sees them: whether there is a reply depends on how long the
loop waits for it.
-/

namespace NetmonPlugins
namespace Icmp

def Probe.isReply : Probe → Bool
  | .sendFailed => false
  | .noReply => false
  | .reply _ _ => true

def Network.Silent (network : Network) : Prop := ∀ i, (network.probe i).isReply = false

def Network.Starts (network : Network) : Prop :=
  network.socketOpens = true ∧ network.resolves = true

instance (network : Network) : Decidable network.Starts := inferInstanceAs (Decidable (_ ∧ _))

def LossLimit (threshold : Double) : Prop := threshold > 0 ∧ .fin 100 ≥ threshold

instance (threshold : Double) : Decidable (LossLimit threshold) :=
  inferInstanceAs (Decidable (_ ∧ _))

theorem Totals.add_of_not_isReply (totals : Totals) (probe : Probe) (h : probe.isReply = false)
    : totals.add probe = totals := by
  cases probe with
  | sendFailed => rfl
  | noReply => rfl
  | reply startTime endTime => contradiction

theorem probeLoop_congr {probe probe' : Nat → Probe} (n : Nat)
    (h : ∀ i, i < n → probe i = probe' i)
    : probeLoop probe n = probeLoop probe' n := by
  induction n with
  | zero => rfl
  | succ n ih =>
    rw [probeLoop, probeLoop, h n (by omega), ih]
    intro i hi
    apply h
    omega

theorem probeLoop_of_silent {network : Network} (h : network.Silent) (n : Nat)
    : probeLoop network.probe n = {} := by
  induction n with
  | zero => rfl
  | succ n ih =>
    rw [probeLoop, ih]
    apply Totals.add_of_not_isReply
    apply h

theorem packetLoss_of_silent (count : Int) (h : count ≠ 0)
    : (({} : Totals).result count).packetLoss = .fin 100 := by
  have hcount : (count : ℚ) ≠ 0 := by exact_mod_cast h
  simp only [Totals.result, Double.ofInt_eq_fin, Double.ofNat_eq_fin, Double.fin_mul_fin, sub_zero]
  rw [Double.fin_div_fin _ _ hcount]
  simp [hcount]

theorem avgRTT_of_silent (count : Int) : (({} : Totals).result count).avgRTT = 0 := rfl

theorem not_reached_by_zero (threshold : Double)
    : ¬ (threshold > 0 ∧ (0 : Double) ≥ threshold) := by
  cases threshold with
  | nan => simp
  | inf negative => cases negative <;> decide
  | fin q => simp

theorem pingHost_of_starts {network : Network} (hstarts : network.Starts) (host : Bytes)
    (count : Int)
    : pingHost network host count = .ok ((probeLoop network.probe count.toNat).result count) := by
  unfold pingHost
  rw [hstarts.1, hstarts.2]
  rfl

theorem pingHost_of_silent {network : Network} (hsilent : network.Silent) (hstarts : network.Starts)
    (host : Bytes) (count : Int)
    : pingHost network host count = .ok (({} : Totals).result count) := by
  rw [pingHost_of_starts hstarts, probeLoop_of_silent hsilent]

theorem pingHost_of_not_starts {network : Network} (h : ¬ network.Starts) (host : Bytes)
    (count : Int)
    : ∃ e, pingHost network host count = .error e := by
  unfold pingHost
  split
  . exact ⟨_, rfl⟩
  . next hsocket =>
    split
    . exact ⟨_, rfl⟩
    . next hresolves =>
      simp only [Bool.not_eq_true, Bool.not_eq_false'] at hsocket hresolves
      exact absurd ⟨hsocket, hresolves⟩ h

/-- What the system calls of one probe meet. -/
structure Exchange where
  -- `sendto` returns a positive number.
  sent : Bool
  -- The microseconds until the socket can be read; `none` if it never can.
  arrival : Option Nat
  -- `recvfrom` returns a positive number.
  received : Bool
  startTime : Timeval
  endTime : Timeval
  deriving DecidableEq

/-- `select` with a timeout of whole seconds; it fails for a negative one. -/
def Exchange.select (exchange : Exchange) (tv_sec : Int) : Bool :=
  match exchange.arrival with
  | some arrival => decide (arrival ≤ tv_sec * 1000000)
  | none => false

structure Wire where
  socketOpens : Bool
  resolves : Bool
  exchange : Nat → Exchange

def Exchange.probe (exchange : Exchange) (tv_sec : Int) : Probe :=
  if !exchange.sent then
    .sendFailed
  else if exchange.select tv_sec && exchange.received then
    .reply exchange.startTime exchange.endTime
  else
    .noReply

/-- The network as a loop sees it that waits `tv_sec` seconds for each reply. -/
def Wire.network (wire : Wire) (tv_sec : Int) : Network where
  socketOpens := wire.socketOpens
  resolves := wire.resolves
  probe i := (wire.exchange i).probe tv_sec

/-- The reply arrives within one second or not at all. -/
def Exchange.Prompt (exchange : Exchange) : Prop :=
  ∀ arrival, exchange.arrival = some arrival → arrival ≤ 1000000

theorem Exchange.Prompt.select_eq {exchange : Exchange} (h : exchange.Prompt) {tv_sec : Int}
    (hsec : 1 ≤ tv_sec)
    : exchange.select tv_sec = exchange.arrival.isSome := by
  unfold Exchange.select
  split
  . next arrival harrival =>
    have := h arrival harrival
    rw [harrival, decide_eq_true (by omega)]
    rfl
  . next harrival =>
    rw [harrival]
    rfl

theorem Exchange.Prompt.probe_eq {exchange : Exchange} (h : exchange.Prompt) {tv_sec : Int}
    (hsec : 1 ≤ tv_sec)
    : exchange.probe tv_sec = exchange.probe 1 := by
  unfold Exchange.probe
  rw [h.select_eq hsec, h.select_eq (by decide)]

theorem pingHost_congr {network network' : Network} {count : Int}
    (hsocket : network.socketOpens = network'.socketOpens)
    (hresolves : network.resolves = network'.resolves)
    (hprobe : ∀ i < count.toNat, network.probe i = network'.probe i) (host : Bytes)
    : pingHost network host count = pingHost network' host count := by
  unfold pingHost
  rw [hsocket, hresolves, probeLoop_congr _ hprobe]

end Icmp
end NetmonPlugins

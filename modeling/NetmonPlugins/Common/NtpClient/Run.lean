import NetmonPlugins.Common.NtpClient.Impl

/-!
This module follows `queryNtpOffset` through its runs: it sends one request and takes one datagram.
-/

namespace NetmonPlugins
namespace queryNtpOffset

open Receiver

variable {system : System α} {host : Bytes} {port timeoutSeconds : Int} {f : NtpQueryResult → β}

theorem map_eq (system : System α) (host : Bytes) (port timeoutSeconds : Int)
    (f : NtpQueryResult → β)
    : (∃ error, (queryNtpOffset system host port timeoutSeconds).map f
          = .done (f { error := error }))
        ∨
      ∃ addr sendTime, createUdpSocket system host port = .ok addr
        ∧ system.sendTime = some sendTime
        ∧ (queryNtpOffset system host port timeoutSeconds).map f
          = .sendto addr packet fun sent =>
            if sent then
              .recvfrom 48 fun received => .done (f (receive system sendTime received))
            else
              .done (f { error := str "Failed to send NTP request" }) := by
  unfold queryNtpOffset
  cases hsocket : createUdpSocket system host port with
  | error error => exact .inl ⟨error, rfl⟩
  | ok addr =>
    cases system.setSocketTimeout timeoutSeconds with
    | false => exact .inl ⟨str "Failed to set socket timeout", rfl⟩
    | true =>
      cases hsend : system.sendTime with
      | none => exact .inl ⟨str "Failed to read local time", rfl⟩
      | some sendTime =>
        refine .inr ⟨addr, sendTime, rfl, rfl, ?_⟩
        simp only [Bool.not_true, Bool.false_eq_true, ↓reduceIte, Receiver.map,
          Receiver.sendto.injEq, true_and]
        funext sent
        cases sent <;> rfl

/-- Where the client is: before its send, before its receive, or at its end. -/
inductive Phase (system : System α) (host : Bytes) (port timeoutSeconds : Int)
    (f : NtpQueryResult → β) (s : State α β) : Prop where
  | sending (hclient : s.client = (queryNtpOffset system host port timeoutSeconds).map f)
      (hreceived : s.received = [])
  | failed (error : Bytes) (hclient : s.client = .done (f { error := error }))
      (hreceived : s.received = [])
  | waiting (addr : α) (sendTime : Timeval) (haddr : createUdpSocket system host port = .ok addr)
      (hsend : system.sendTime = some sendTime)
      (hclient : s.client
        = .recvfrom 48 fun received => .done (f (receive system sendTime received)))
      (hreceived : s.received = [])
  | answered (addr : α) (sendTime : Timeval) (taken : Option (Datagram α))
      (haddr : createUdpSocket system host port = .ok addr)
      (hsend : system.sendTime = some sendTime)
      (hclient : s.client
        = .done (f (receive system sendTime (taken.map fun datagram => datagram.data.take 48))))
      (hreceived : s.received = [taken])

theorem Phase.step {s s' : State α β} {a : Action α}
    (hphase : Phase system host port timeoutSeconds f s) (h : Receiver.step s a = some s')
    : Phase system host port timeoutSeconds f s' := by
  rcases step_cases h with ⟨hclient', hreceived'⟩
    | ⟨target, message, next, sent, hsendto, hclient', hreceived'⟩
    | ⟨size, next, taken, hrecvfrom, hclient', hreceived'⟩
  -- Something arrives, and the client is where it was.
  . cases hphase with
    | sending hclient hreceived =>
      exact .sending (hclient'.trans hclient) (hreceived'.trans hreceived)
    | failed error hclient hreceived =>
      exact .failed error (hclient'.trans hclient) (hreceived'.trans hreceived)
    | waiting addr sendTime haddr hsend hclient hreceived =>
      exact .waiting addr sendTime haddr hsend (hclient'.trans hclient)
        (hreceived'.trans hreceived)
    | answered addr sendTime taken haddr hsend hclient hreceived =>
      exact .answered addr sendTime taken haddr hsend (hclient'.trans hclient)
        (hreceived'.trans hreceived)
  . cases hphase with
    | sending hclient hreceived =>
      rw [hsendto] at hclient
      rcases map_eq system host port timeoutSeconds f with
        ⟨error, hdone⟩ | ⟨addr, sendTime, haddr, hsend, hmap⟩
      . rw [hdone] at hclient
        contradiction
      . rw [hmap, Receiver.sendto.injEq] at hclient
        obtain ⟨rfl, rfl, rfl⟩ := hclient
        cases sent with
        | true => exact .waiting _ sendTime haddr hsend hclient' (hreceived'.trans hreceived)
        | false => exact .failed _ hclient' (hreceived'.trans hreceived)
    | failed error hclient hreceived => simp [hsendto] at hclient
    | waiting addr sendTime haddr hsend hclient hreceived => simp [hsendto] at hclient
    | answered addr sendTime taken haddr hsend hclient hreceived => simp [hsendto] at hclient
  . cases hphase with
    | sending hclient hreceived =>
      rw [hrecvfrom] at hclient
      rcases map_eq system host port timeoutSeconds f with
        ⟨error, hdone⟩ | ⟨addr, sendTime, haddr, hsend, hmap⟩
      . rw [hdone] at hclient
        contradiction
      . rw [hmap] at hclient
        contradiction
    | failed error hclient hreceived => simp [hrecvfrom] at hclient
    | waiting addr sendTime haddr hsend hclient hreceived =>
      rw [hrecvfrom, Receiver.recvfrom.injEq] at hclient
      obtain ⟨rfl, rfl⟩ := hclient
      apply Phase.answered addr sendTime taken haddr hsend hclient'
      rw [hreceived', hreceived, List.nil_append]
    | answered addr sendTime taken haddr hsend hclient hreceived => simp [hrecvfrom] at hclient

theorem result_of_ends {received : List (Option (Datagram α))} {result : β}
    (h : Ends ((queryNtpOffset system host port timeoutSeconds).map f) received result)
    : (received = [] ∧ ∃ error, result = f { error := error })
        ∨
      ∃ addr sendTime taken, createUdpSocket system host port = .ok addr
        ∧ system.sendTime = some sendTime
        ∧ received = [taken]
        ∧ result
          = f (receive system sendTime (taken.map fun datagram => datagram.data.take 48)) := by
  obtain ⟨s, hreach, hdone, rfl⟩ := h
  have hphase : Phase system host port timeoutSeconds f s := by
    apply Reaches.invariant _ _ hreach
    . exact .sending rfl rfl
    . intro s a s' hphase _ hstep
      exact hphase.step hstep
  cases hphase with
  | sending hclient hreceived =>
    rw [hdone] at hclient
    rcases map_eq system host port timeoutSeconds f with
      ⟨error, hmap⟩ | ⟨addr, sendTime, haddr, hsend, hmap⟩
    . rw [hmap, Receiver.done.injEq] at hclient
      exact .inl ⟨hreceived, error, hclient⟩
    . rw [hmap] at hclient
      contradiction
  | failed error hclient hreceived =>
    rw [hdone, Receiver.done.injEq] at hclient
    exact .inl ⟨hreceived, error, hclient⟩
  | waiting addr sendTime haddr hsend hclient hreceived => simp [hdone] at hclient
  | answered addr sendTime taken haddr hsend hclient hreceived =>
    rw [hdone, Receiver.done.injEq] at hclient
    exact .inr ⟨addr, sendTime, taken, haddr, hsend, hreceived, hclient⟩

end queryNtpOffset
end NetmonPlugins

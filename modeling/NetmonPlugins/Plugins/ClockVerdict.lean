import NetmonPlugins.Common.NtpClient.Offset
import NetmonPlugins.Net.Mailbox
import NetmonPlugins.Plugins.Ntp.Impl
import NetmonPlugins.Plugins.NtpTime.Impl
import NetmonPlugins.Plugins.Time.Impl

/-!
This module contains the verdict of `check_ntp`, `check_ntp_time` and `check_time` about a clock:
it is the one about the true error of the clock, as long as no threshold is nearer to that error
than the exchange can tell.
-/

namespace NetmonPlugins

open queryNtpOffset Receiver

/-- The threshold is not set, or the error is on the same side of it as all that is near to it. -/
def IsClear (error tolerance : ℚ) (threshold : Double) : Prop :=
  ∀ t, threshold = .fin t → 0 < t → tolerance < |(|error| - t)|

theorem lt_abs_iff_of_near {q error tolerance t : ℚ} (hnear : |q - error| ≤ tolerance)
    (hclear : tolerance < |(|error| - t)|)
    : t < |q| ↔ t < |error| := by
  have hdist : |(|q| - |error|)| ≤ tolerance := (abs_abs_sub_abs_le_abs_sub q error).trans hnear
  rw [abs_le] at hdist
  rw [lt_abs] at hclear
  constructor
  . intro h
    rcases hclear with hclear | hclear <;> linarith
  . intro h
    rcases hclear with hclear | hclear <;> linarith

theorem exceeds_iff_of_near {q error tolerance : ℚ} {threshold : Double}
    (hnear : |q - error| ≤ tolerance) (hclear : IsClear error tolerance threshold)
    : (threshold > 0 ∧ (Double.fin q).abs > threshold)
        ↔
      (threshold > 0 ∧ (Double.fin error).abs > threshold) := by
  cases threshold with
  | nan => exact Iff.rfl
  | inf negative => exact Iff.rfl
  | fin t =>
    apply and_congr_right
    intro hpos
    have ht : 0 < t := by
      rwa [gt_iff_lt, Double.ofNat_eq_fin, Double.fin_lt_fin, Nat.cast_zero] at hpos
    exact (Double.fin_lt_fin _ _).trans
      ((lt_abs_iff_of_near hnear (hclear t rfl ht)).trans (Double.fin_lt_fin _ _).symm)

theorem offsetCode_of_near {q error tolerance : ℚ} {warningOffset criticalOffset : Double}
    (hnear : |q - error| ≤ tolerance) (hwarning : IsClear error tolerance warningOffset)
    (hcritical : IsClear error tolerance criticalOffset)
    : offsetCode warningOffset criticalOffset (.fin q)
        =
      offsetCode warningOffset criticalOffset (.fin error) := by
  unfold offsetCode
  simp only [exceeds_iff_of_near hnear hwarning, exceeds_iff_of_near hnear hcritical]

/-- The local clock is read when the request is sent and when the reply has come. -/
structure IsReadBy (m : Measurement) (system : System α) : Prop where
  send : ∃ sendTime, system.sendTime = some sendTime
    ∧ timevalToSeconds sendTime = .fin (m.send + m.error)
  receive : ∃ recvTime, system.recvTime = some recvTime
    ∧ timevalToSeconds recvTime = .fin (m.receive + m.error)

def IsNear (result : NtpQueryResult) (error tolerance : ℚ) : Prop :=
  result.ok = true ∧ ∃ q, result.offset_seconds = .fin q ∧ |q - error| ≤ tolerance

variable {system : System α} {host : Bytes} {port timeoutSeconds : Int} {m : Measurement}
  {taken : Option (Datagram α)} {datagram : Datagram α} {result : NtpQueryResult}

/-- What the two queries have in common. -/
def exchange (system : System α) (host : Bytes) (port timeoutSeconds : Int) (request : Bytes)
    (refused : Bytes) (size : Nat) (evaluate : Timeval → Option Bytes → NtpQueryResult)
    : Receiver α NtpQueryResult :=
  match createUdpSocket system host port with
  | .error error => .done { error := error }
  | .ok addr =>
    if !system.setSocketTimeout timeoutSeconds then
      .done { error := str "Failed to set socket timeout" }
    else
      match system.sendTime with
      | none => .done { error := str "Failed to read local time" }
      | some sendTime =>
        .sendto addr request fun sent =>
          if !sent then
            .done { error := refused }
          else
            .recvfrom size fun received => .done (evaluate sendTime received)

theorem queryNtpOffset_eq
    : queryNtpOffset system host port timeoutSeconds
        =
      exchange system host port timeoutSeconds packet (str "Failed to send NTP request") 48
        (receive system) := rfl

theorem queryTimeProtocolOffset_eq
    : queryTimeProtocolOffset system host port timeoutSeconds
        =
      exchange system host port timeoutSeconds [0] (str "Failed to send time protocol request") 4
        (queryTimeProtocolOffset.receive system) := rfl

theorem plays_exchange {request refused : Bytes} {size : Nat}
    {evaluate : Timeval → Option Bytes → NtpQueryResult}
    (h : Plays (exchange system host port timeoutSeconds request refused size evaluate) [taken]
      result)
    : ∃ sendTime, system.sendTime = some sendTime
        ∧ result = evaluate sendTime (taken.map fun datagram => datagram.data.take size) := by
  unfold exchange at h
  cases hsocket : createUdpSocket system host port with
  | error error =>
    rw [hsocket] at h
    nomatch h
  | ok addr =>
    simp only [hsocket] at h
    split at h
    . nomatch h
    . cases hsend : system.sendTime with
      | none =>
        rw [hsend] at h
        nomatch h
      | some sendTime =>
        rw [hsend] at h
        cases h with
        | sendto sent h =>
          cases sent with
          | false => nomatch h
          | true =>
            cases h with
            | recvfrom _ h =>
              cases h
              exact ⟨sendTime, rfl, rfl⟩

theorem substr_take {data : Bytes} {pos len n : Nat} (h : pos + len ≤ n)
    : substr (data.take n) pos len = substr data pos len := by
  unfold substr
  rw [List.drop_take, List.take_take, Nat.min_eq_left (by omega)]

theorem le_length_of_substr {data text : Bytes} {pos len : Nat} (h : substr data pos len = text)
    (hlength : text.length = len) (hpos : 0 < len)
    : pos + len ≤ data.length := by
  have := congrArg List.length h
  rw [substr, List.length_take, List.length_drop, hlength] at this
  omega

theorem near_of_ntp (hread : IsReadBy m system)
    (hreply : substr datagram.data 40 8 = Ntp.timestamp m.transmit)
    (h : Plays (queryNtpOffset system host port timeoutSeconds) [some datagram] result)
    : IsNear result m.error m.tolerance := by
  obtain ⟨sendTime, hsendTime, hsend⟩ := hread.send
  obtain ⟨recvTime, hrecvTime, hreceive⟩ := hread.receive
  rw [queryNtpOffset_eq] at h
  obtain ⟨sendTime', hsendTime', rfl⟩ := plays_exchange h
  rw [hsendTime, Option.some.injEq] at hsendTime'
  subst hsendTime'
  have hlong := le_length_of_substr hreply rfl (by decide)
  have htaken : substr (datagram.data.take 48) 40 8 = Ntp.timestamp m.transmit := by
    rwa [substr_take (by decide)]
  obtain ⟨q, hq, hnear, -⟩ := midpointOffset_bounded m htaken
  rw [Option.map_some, receive, hrecvTime]
  dsimp only
  rw [if_neg (by rw [List.length_take]; omega)]
  refine ⟨rfl, q, ?_, hnear⟩
  rw [← hq, ← hsend, ← hreceive]
  rfl

theorem near_of_timeProtocol (hread : IsReadBy m system)
    (hreply : substr datagram.data 0 4 = Ntp.time m.transmit)
    (h : Plays (queryTimeProtocolOffset system host port timeoutSeconds) [some datagram] result)
    : IsNear result m.error ((m.receive - m.send) / 2 + 1) := by
  obtain ⟨sendTime, hsendTime, hsend⟩ := hread.send
  obtain ⟨recvTime, hrecvTime, hreceive⟩ := hread.receive
  rw [queryTimeProtocolOffset_eq] at h
  obtain ⟨sendTime', hsendTime', rfl⟩ := plays_exchange h
  rw [hsendTime, Option.some.injEq] at hsendTime'
  subst hsendTime'
  have hlong := le_length_of_substr hreply rfl (by decide)
  have htaken : substr (datagram.data.take 4) 0 4 = Ntp.time m.transmit := by
    rwa [substr_take (by decide)]
  rw [Option.map_some, queryTimeProtocolOffset.receive, hrecvTime]
  dsimp only
  rw [if_neg (by rw [List.length_take]; omega)]
  refine ⟨rfl, ?_⟩
  have hseconds := Ntp.seconds_near m.le_transmit
  have hlt : Ntp.seconds m.transmit < 2 ^ 32 * 1 :=
    (count_lt_iff 1 (by decide) (by simpa using hseconds.1) (by simpa using hseconds.2)).mpr
      m.transmit_lt
  rw [Nat.mul_one] at hlt
  show ∃ q, queryTimeProtocolOffset.clockOffset sendTime recvTime _ = .fin q ∧ _
  unfold queryTimeProtocolOffset.clockOffset
  rw [queryTimeProtocolOffset.serverTime_eq htaken, Nat.mod_eq_of_lt hlt, hsend, hreceive,
    Double.fin_add_fin, Double.ofNat_eq_fin, Double.fin_div_fin _ _ (by norm_num),
    Double.fin_sub_fin]
  refine ⟨_, rfl, ?_⟩
  have hle := m.send_le
  have hle' := m.le_receive
  push_cast
  rw [abs_le]
  constructor
  . linarith
  . linarith

inductive ClockCheck where
  | ntp (config : NtpPlugin.Config)
  | ntpTime (config : NtpTimePlugin.Config)
  | time (config : TimePlugin.Config)

namespace ClockCheck

def client (system : System α) : ClockCheck → Receiver α PluginResult
  | ntp config => NtpPlugin.check system config
  | ntpTime config => NtpTimePlugin.check system config
  | time config => TimePlugin.check system config

def usesNtp : ClockCheck → Bool
  | time config => config.port = 123
  | _ => true

def warningOffset : ClockCheck → Double
  | ntp config => config.warningOffset
  | ntpTime config => config.warningOffset
  | time config => config.warningOffset

def criticalOffset : ClockCheck → Double
  | ntp config => config.criticalOffset
  | ntpTime config => config.criticalOffset
  | time config => config.criticalOffset

/-- The reply of a correct server holds the instant it was sent at. -/
def IsReply (check : ClockCheck) (m : Measurement) (reply : Bytes) : Prop :=
  if check.usesNtp then
    substr reply 40 8 = Ntp.timestamp m.transmit
  else
    substr reply 0 4 = Ntp.time m.transmit

/-- Half of the way there and back, and the unit of the protocol. -/
def tolerance (check : ClockCheck) (m : Measurement) : ℚ :=
  (m.receive - m.send) / 2 + if check.usesNtp then 1 / 2 ^ 32 else 1

theorem near_of_usesNtp {check : ClockCheck} (huses : check.usesNtp = true)
    (hread : IsReadBy m system) (hreply : check.IsReply m datagram.data)
    (h : Plays (queryNtpOffset system host port timeoutSeconds) [some datagram] result)
    : IsNear result m.error (check.tolerance m) := by
  rw [IsReply, if_pos huses] at hreply
  rw [tolerance, if_pos huses]
  exact near_of_ntp hread hreply h

theorem near_of_not_usesNtp {check : ClockCheck} (huses : check.usesNtp = false)
    (hread : IsReadBy m system) (hreply : check.IsReply m datagram.data)
    (h : Plays (queryTimeProtocolOffset system host port timeoutSeconds) [some datagram] result)
    : IsNear result m.error (check.tolerance m) := by
  rw [IsReply, if_neg (by simp [huses])] at hreply
  rw [tolerance, if_neg (by simp [huses])]
  exact near_of_timeProtocol hread hreply h

theorem code_of_near {check : ClockCheck} {result : PluginResult} {query : NtpQueryResult}
    (hnear : IsNear query m.error (check.tolerance m))
    (hwarning : IsClear m.error (check.tolerance m) check.warningOffset)
    (hcritical : IsClear m.error (check.tolerance m) check.criticalOffset)
    (hcode : query.ok = true
      → result.code = offsetCode check.warningOffset check.criticalOffset query.offset_seconds)
    : result.code = offsetCode check.warningOffset check.criticalOffset (.fin m.error) := by
  obtain ⟨hok, q, hq, hdist⟩ := hnear
  rw [hcode hok, hq, offsetCode_of_near hdist hwarning hcritical]

/-- The verdict is the one about the true error of the local clock, where the server is correct and
no threshold is nearer to the error than the exchange can tell. -/
theorem code_eq_ideal (check : ClockCheck) (m : Measurement) (system : System α)
    (hread : IsReadBy m system) (datagram : Datagram α) (hreply : check.IsReply m datagram.data)
    (hwarning : IsClear m.error (check.tolerance m) check.warningOffset)
    (hcritical : IsClear m.error (check.tolerance m) check.criticalOffset)
    (result : PluginResult) (hends : Ends (check.client system) [some datagram] result)
    : result.code = offsetCode check.warningOffset check.criticalOffset (.fin m.error) := by
  have hplays := plays_of_ends hends
  cases check with
  | ntp config =>
    obtain ⟨query, hquery, rfl⟩ := plays_map_iff.mp hplays
    apply code_of_near (near_of_usesNtp rfl hread hreply hquery) hwarning hcritical
    intro hok
    simp [NtpPlugin.judge, hok, warningOffset, criticalOffset]
  | ntpTime config =>
    obtain ⟨query, hquery, rfl⟩ := plays_map_iff.mp hplays
    apply code_of_near (near_of_usesNtp rfl hread hreply hquery) hwarning hcritical
    intro hok
    simp [NtpTimePlugin.judge, hok, warningOffset, criticalOffset]
  | time config =>
    change Plays (TimePlugin.check system config) _ _ at hplays
    unfold TimePlugin.check at hplays
    split at hplays
    . nomatch hplays
    . obtain ⟨query, hquery, rfl⟩ := plays_map_iff.mp hplays
      have hnear : IsNear query m.error ((time config).tolerance m) := by
        unfold TimePlugin.query at hquery
        split at hquery
        . next hport => exact near_of_usesNtp (decide_eq_true hport) hread hreply hquery
        . next hport => exact near_of_not_usesNtp (decide_eq_false hport) hread hreply hquery
      apply code_of_near hnear hwarning hcritical
      intro hok
      simp [TimePlugin.judge, hok, warningOffset, criticalOffset]

def quarterSecond : ClockCheck := .ntp { hostname := str "ntp", warningOffset := .fin (1 / 4) }

theorem isReadBy_aheadSystem : IsReadBy halfSecondAhead aheadSystem where
  send := ⟨_, rfl, by decide +kernel⟩
  receive := ⟨_, rfl, by decide +kernel⟩

theorem code_eq_ideal_of_halfSecond
    : ∃ result, Ends (quarterSecond.client aheadSystem) [some { source := 1, data := sixteenthReply }]
          result
        ∧ result.code = .warning := by
  have hends : Ends (quarterSecond.client aheadSystem)
      [some { source := 1, data := sixteenthReply }] _ :=
    .of_exec [.send true, .arrive { source := 1, data := sixteenthReply }, .receive] rfl rfl rfl
  have hreply : quarterSecond.IsReply halfSecondAhead sixteenthReply := by
    show substr sixteenthReply 40 8 = Ntp.timestamp halfSecondAhead.transmit
    decide +kernel
  refine ⟨_, hends, ?_⟩
  rw [code_eq_ideal quarterSecond halfSecondAhead aheadSystem isReadBy_aheadSystem _ hreply ?_ ?_ _
    hends]
  . decide +kernel
  . intro t ht _
    cases ht
    decide +kernel
  . intro t ht _
    cases ht
    decide +kernel

end ClockCheck
end NetmonPlugins

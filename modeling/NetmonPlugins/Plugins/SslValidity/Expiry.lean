import NetmonPlugins.Plugins.SslValidity.Impl

/-!
This module determines for which certificates `check_ssl_validity` is critical once they have
expired and no less severe than for certificates with more time left, and on which hosts the days
until a certificate expires are those of a host whose local time is UTC.
-/

namespace NetmonPlugins
namespace SslValidityPlugin

def verdict (config : Config) (clock : Clock) (notAfter : Instant) : ExitCode :=
  (check true (fun _ _ _ => .certificate (some notAfter)) clock config).code

def codeOfDays (config : Config) (days : Int) : ExitCode :=
  if days < 0 then
    .ok
  else if days ≤ config.criticalDays then
    .critical
  else if days ≤ config.warningDays then
    .warning
  else
    .ok

def timeLeft (clock : Clock) (notAfter : Instant) : Int :=
  notAfter.seconds - clock.now.seconds - clock.utcOffset.seconds

theorem tdiv_day (t : Int) : t.tdiv 86400 = if 0 ≤ t then t / 86400 else -(-t / 86400) := by
  split
  . next h => apply Int.tdiv_eq_ediv_of_nonneg h
  . next h =>
    rw [← Int.tdiv_eq_ediv_of_nonneg, Int.neg_tdiv, Int.neg_neg]
    omega

theorem tdiv_day_nonneg_iff (t : Int) : 0 ≤ t.tdiv 86400 ↔ -86400 < t := by
  rw [tdiv_day]
  split
  . omega
  . omega

theorem castInt_days (clock : Clock) (notAfter : Instant)
    : castInt ((mktime clock notAfter - clock.now.seconds).tdiv 86400)
        =
      (timeLeft clock notAfter).tdiv 86400 := by
  have heq : mktime clock notAfter - clock.now.seconds = timeLeft clock notAfter := by
    unfold mktime timeLeft
    omega
  have hle : -400000000000 ≤ timeLeft clock notAfter ∧ timeLeft clock notAfter ≤ 400000000000 := by
    have := notAfter.le_seconds
    have := notAfter.seconds_le
    have := clock.now.le_seconds
    have := clock.now.seconds_le
    have := clock.utcOffset.le_seconds
    have := clock.utcOffset.seconds_le
    unfold timeLeft
    omega
  have hday := tdiv_day (timeLeft clock notAfter)
  unfold castInt
  rw [heq]
  apply Int.bmod_eq_of_le
  . split at hday
    . omega
    . omega
  . split at hday
    . omega
    . omega

theorem verdict_eq {config : Config} (hhost : config.hostname ≠ []) (clock : Clock)
    (notAfter : Instant)
    : verdict config clock notAfter = codeOfDays config ((timeLeft clock notAfter).tdiv 86400) := by
  unfold verdict check checkSslCertificate codeOfDays
  rw [if_neg hhost]
  simp only [if_true]
  rw [castInt_days]
  by_cases hneg : (timeLeft clock notAfter).tdiv 86400 < 0
  . rw [if_pos hneg, if_neg (by omega)]
  . rw [if_neg hneg, if_pos (by omega)]
    split
    . rfl
    . split
      . rfl
      . rfl

theorem codeOfDays_anti (config : Config) {days days' : Int} (hnonneg : 0 ≤ days)
    (h : days ≤ days')
    : (codeOfDays config days').toInt ≤ (codeOfDays config days).toInt := by
  have hneg : ¬ days < 0 := by omega
  have hneg' : ¬ days' < 0 := by omega
  unfold codeOfDays
  rw [if_neg hneg, if_neg hneg']
  by_cases hcritical : days ≤ config.criticalDays
  . rw [if_pos hcritical]
    split
    . decide
    . split
      . decide
      . decide
  . have hcritical' : ¬ days' ≤ config.criticalDays := by omega
    rw [if_neg hcritical, if_neg hcritical']
    by_cases hwarning : days ≤ config.warningDays
    . rw [if_pos hwarning]
      split
      . decide
      . decide
    . have hwarning' : ¬ days' ≤ config.warningDays := by omega
      rw [if_neg hwarning, if_neg hwarning']

/--
A certificate is critical once it has expired, and at least as severe as any with more time left, if
and only if it has not expired for a whole day on the local clock.
-/
theorem verdict_sound_iff (config : Config) (hhost : config.hostname ≠ [])
    (hcritical : 0 ≤ config.criticalDays) (clock : Clock) (notAfter : Instant)
    : ((notAfter.seconds ≤ clock.now.seconds → verdict config clock notAfter = .critical)
          ∧
        ∀ now' notAfter' : Instant,
          notAfter.seconds - clock.now.seconds ≤ notAfter'.seconds - now'.seconds
            → (verdict config { clock with now := now' } notAfter').toInt
              ≤ (verdict config clock notAfter).toInt)
        ↔
      -86400 < timeLeft clock notAfter := by
  have hoffset := clock.utcOffset.le_seconds
  have hoffset' := clock.utcOffset.seconds_le
  rw [verdict_eq hhost, ← tdiv_day_nonneg_iff]
  constructor
  . intro h
    rw [← Int.not_lt]
    intro hneg
    have hexpired : notAfter.seconds ≤ clock.now.seconds := by
      rw [← Int.not_le, tdiv_day_nonneg_iff] at hneg
      unfold timeLeft at hneg
      omega
    have hcode := h.1 hexpired
    unfold codeOfDays at hcode
    rw [if_pos hneg] at hcode
    contradiction
  . intro hnonneg
    constructor
    . intro hexpired
      have hday : (timeLeft clock notAfter).tdiv 86400 ≤ 0 := by
        have hday := tdiv_day (timeLeft clock notAfter)
        unfold timeLeft at hday ⊢
        split at hday
        . omega
        . omega
      unfold codeOfDays
      rw [if_neg (by omega), if_pos (by omega)]
    . intro now' notAfter' hle
      rw [verdict_eq hhost]
      apply codeOfDays_anti config hnonneg
      apply Int.tdiv_le_tdiv (by decide)
      unfold timeLeft
      dsimp only
      omega

def epoch : Instant := ⟨0, by decide, by decide⟩

def utc : UtcOffset := ⟨0, by decide, by decide⟩

theorem verdict_sound_of_halfHour
    : verdict { hostname := str "gateway" } ⟨⟨1800, by decide, by decide⟩, utc⟩ epoch
        = .critical := by
  apply ((verdict_sound_iff { hostname := str "gateway" } (by decide) (by decide)
    ⟨⟨1800, by decide, by decide⟩, utc⟩ epoch).mpr (by decide)).1
  decide

theorem verdict_of_expired
    : epoch.seconds ≤ 172800
        ∧
      check true (fun _ _ _ => .certificate (some epoch))
          ⟨⟨172800, by decide, by decide⟩, utc⟩ { hostname := str "gateway" }
        = { code := .ok
            message := str "SSL OK - Certificate for gateway:443"
              ++ str " (expiry unknown - SSL support not compiled in)" } := by
  decide

/--
Of the time `t` that is left, what exceeds the whole days is at least the offset, and with the
offset taken off it is still less than a day. Under a whole day only the day as such counts, and a
time in the past is counted backwards.
-/
def KeepsDay (t utcOffset : Int) : Prop :=
  if 86400 ≤ t then
    utcOffset ≤ t % 86400 ∧ t % 86400 < 86400 + utcOffset
  else if t ≤ -86400 then
    -utcOffset ≤ -t % 86400 ∧ -t % 86400 < 86400 - utcOffset
  else
    -86400 < t - utcOffset ∧ t - utcOffset < 86400

instance (t utcOffset : Int) : Decidable (KeepsDay t utcOffset) := by
  unfold KeepsDay
  infer_instance

theorem tdiv_day_sub_eq_iff (t utcOffset : Int)
    : (t - utcOffset).tdiv 86400 = t.tdiv 86400 ↔ KeepsDay t utcOffset := by
  have hday := tdiv_day t
  have hshifted := tdiv_day (t - utcOffset)
  unfold KeepsDay
  by_cases hlong : 86400 ≤ t
  . rw [if_pos hlong]
    rw [if_pos (by omega)] at hday
    split at hshifted
    . omega
    . omega
  . rw [if_neg hlong]
    by_cases hpast : t ≤ -86400
    . rw [if_pos hpast]
      rw [if_neg (by omega)] at hday
      split at hshifted
      . omega
      . omega
    . rw [if_neg hpast]
      split at hday
      . split at hshifted
        . omega
        . omega
      . split at hshifted
        . omega
        . omega

/-- The days do not depend on the zone of the host if and only if the offset keeps the day. -/
theorem checkSslCertificate_days_iff {connect : Bytes → Int → Int → Peer} {host : Bytes}
    {portNum timeout : Int} {notAfter : Instant}
    (hconnect : connect host portNum timeout = .certificate (some notAfter)) (clock : Clock)
    : checkSslCertificate true connect clock host portNum timeout
          = some ((notAfter.seconds - clock.now.seconds).tdiv 86400)
        ↔
      KeepsDay (notAfter.seconds - clock.now.seconds) clock.utcOffset.seconds := by
  have hdays : checkSslCertificate true connect clock host portNum timeout
      = some ((timeLeft clock notAfter).tdiv 86400) := by
    unfold checkSslCertificate
    rw [hconnect]
    simp only [if_true]
    rw [castInt_days]
  rw [hdays, Option.some.injEq]
  exact tdiv_day_sub_eq_iff (notAfter.seconds - clock.now.seconds) clock.utcOffset.seconds

def certificateUntil (notAfter : Instant) : Bytes → Int → Int → Peer :=
  fun _ _ _ => .certificate (some notAfter)

/-- At the epoch, an hour ahead of UTC. -/
def hourAhead : Clock := ⟨epoch, ⟨3600, by decide, by decide⟩⟩

def eightDays : Instant := ⟨691200, by decide, by decide⟩

def twoHoursMore : Instant := ⟨698400, by decide, by decide⟩

theorem checkSslCertificate_days_of_twoHours
    : checkSslCertificate true (certificateUntil twoHoursMore) hourAhead (str "gateway") 443 10
        = some ((twoHoursMore.seconds - hourAhead.now.seconds).tdiv 86400) := by
  have hconnect : certificateUntil twoHoursMore (str "gateway") 443 10
      = .certificate (some twoHoursMore) := rfl
  apply (checkSslCertificate_days_iff hconnect hourAhead).mpr
  decide

/-- A certificate with eight days left has seven. -/
theorem checkSslCertificate_days_of_eightDays
    : checkSslCertificate true (certificateUntil eightDays) hourAhead (str "gateway") 443 10
        = some 7
          ∧
      (eightDays.seconds - hourAhead.now.seconds).tdiv 86400 = 8 := by
  decide

end SslValidityPlugin
end NetmonPlugins

import NetmonPlugins.Common.Occurrences
import NetmonPlugins.Cxx.Decimal
import NetmonPlugins.Plugins.Apache.Impl
import NetmonPlugins.Plugins.Memcached.Impl
import NetmonPlugins.Plugins.Phpfpm.Impl

/-!
This module determines which counters of a status text are read exactly: those of an `int` that the
search meets first.
-/

namespace NetmonPlugins

namespace MemcachedPlugin

def keys : List Bytes :=
  [str "STAT curr_connections", str "STAT total_connections", str "STAT get_hits",
    str "STAT get_misses", str "STAT bytes", str "STAT curr_items", str "STAT evictions"]

/-- The text opens a line at the position. -/
def LineAt (text : Bytes) (pos : Nat) (line : Bytes) : Prop :=
  ∃ rest, text.drop pos = line ++ (crlf ++ rest) ∧ ¬ crlf <:+: line

theorem extractStatValue_of_line {stats key line : Bytes} {pos : Nat}
    (hpos : find stats (key ++ str " ") 0 = some pos)
    (hline : LineAt stats (pos + key.length + 1) line)
    : extractStatValue stats key
        =
      match stoi line with
      | .ok value => value
      | .error _ => -1 := by
  obtain ⟨rest, hdrop, hnot⟩ := hline
  have hle : pos + key.length + 1 ≤ stats.length := by
    by_contra hlong
    rw [List.drop_eq_nil_of_le (by omega)] at hdrop
    simp [crlf] at hdrop
  have hend : find stats crlf (pos + key.length + 1)
      = some (pos + key.length + 1 + line.length) := by
    rw [find_from hle, find_crlf_eq_some_iff.mpr ⟨line, rest, hdrop, rfl, hnot⟩]
    rfl
  unfold extractStatValue
  rw [hpos]
  simp only
  rw [hend]
  simp only
  have hline : substr stats (pos + key.length + 1)
      (pos + key.length + 1 + line.length - (pos + key.length + 1)) = line := by
    unfold substr
    rw [hdrop, Nat.add_sub_cancel_left, List.take_left]
  cases hstoi : stoi line with
  | ok value => simp only [hline, hstoi]
  | error e => simp only [hline, hstoi]

theorem extractStatValue_of_no_line {stats key : Bytes} {pos : Nat}
    (hpos : find stats (key ++ str " ") 0 = some pos)
    (hnone : ∀ line, ¬ LineAt stats (pos + key.length + 1) line)
    : extractStatValue stats key = -1 := by
  have hend : find stats crlf (pos + key.length + 1) = none := by
    by_cases hle : pos + key.length + 1 ≤ stats.length
    . rw [find_from hle, Option.map_eq_none_iff, Option.eq_none_iff_forall_ne_some]
      intro k hk
      obtain ⟨line, rest, hdrop, -, hnot⟩ := find_crlf_eq_some_iff.mp hk
      exact hnone line ⟨rest, hdrop, hnot⟩
    . unfold find
      rw [if_neg hle]
  unfold extractStatValue
  rw [hpos]
  simp only
  rw [hend]

/-- A text of the statistics with the line of one counter. -/
def statsWith (before key digits after : Bytes) : Bytes :=
  before ++ (key ++ str " " ++ (digits ++ (crlf ++ after)))

def MetFirst (before key digits after : Bytes) : Prop :=
  ∃ pos, find (statsWith before key digits after) (key ++ str " ") 0 = some pos
    ∧ (pos = before.length
      ∨ ∃ line, LineAt (statsWith before key digits after) (pos + key.length + 1) line
        ∧ stoi line = .ok (digitsValue digits))

theorem lineAt_own (before key digits after : Bytes) (hdigits : ∀ c ∈ digits, isDigit c = true)
    : LineAt (statsWith before key digits after) (before.length + key.length + 1) digits := by
  refine ⟨after, ?_, ?_⟩
  . have hlength : before.length + key.length + 1 = (before ++ (key ++ str " ")).length := by
      simp [str]
      omega
    have htext : statsWith before key digits after
        = before ++ (key ++ str " ") ++ (digits ++ (crlf ++ after)) := by
      simp [statsWith]
    rw [htext, hlength, List.drop_left]
  . intro hinside
    have hcr := hdigits 13 (hinside.subset (by decide))
    contradiction

theorem extractStatValue_line_iff (before key digits after : Bytes) (hne : digits ≠ [])
    (hdigits : ∀ c ∈ digits, isDigit c = true)
    : extractStatValue (statsWith before key digits after) key = digitsValue digits
        ↔
      digitsValue digits < 2 ^ 31 ∧ MetFirst before key digits after := by
  have hfound : ∃ pos, find (statsWith before key digits after) (key ++ str " ") 0 = some pos := by
    rw [← Option.isSome_iff_exists]
    apply (contains_iff_isInfix _ _).mpr
    exact ⟨before, digits ++ (crlf ++ after), by simp [statsWith]⟩
  obtain ⟨pos, hpos⟩ := hfound
  constructor
  . intro h
    by_cases hline : ∃ line, LineAt (statsWith before key digits after) (pos + key.length + 1) line
    . obtain ⟨line, hline⟩ := hline
      rw [extractStatValue_of_line hpos hline] at h
      split at h
      . next value hvalue =>
        have hrange := range_of_stoInteger hvalue
        refine ⟨by omega, pos, hpos, .inr ⟨line, hline, ?_⟩⟩
        rw [hvalue, h]
      . omega
    . rw [extractStatValue_of_no_line hpos (by simpa using hline)] at h
      omega
  . rintro ⟨hsmall, pos', hpos', hsame⟩
    rw [hpos, Option.some.injEq] at hpos'
    rw [← hpos'] at hsame
    rcases hsame with rfl | ⟨line, hline, hstoi⟩
    . have hstoi : stoi digits = .ok (digitsValue digits) := by
        apply stoInteger_of_isDigit _ _ _ _ hne hdigits
        . omega
        . omega
      rw [extractStatValue_of_line hpos (lineAt_own before key digits after hdigits), hstoi]
    . rw [extractStatValue_of_line hpos hline, hstoi]

end MemcachedPlugin

namespace StatusPage

/-- A line with a counter, up to the line break. -/
structure CounterLine where
  label : Bytes
  blanks : Bytes
  blanks' : Bytes
  whole : Bytes
  fraction : Option Bytes
  isSpace_blanks : ∀ c ∈ blanks, isSpace c = true
  isSpace_blanks' : ∀ c ∈ blanks', isSpace c = true
  isDigit_whole : ∀ c ∈ whole, isDigit c = true
  isDigit_fraction : ∀ c ∈ fraction.getD [], isDigit c = true
  digits_ne_nil : whole ++ fraction.getD [] ≠ []

namespace CounterLine

variable (line : CounterLine)

def value : Bytes := line.whole ++ line.fraction.elim [] (46 :: ·)

def text : Bytes := line.label ++ (line.blanks ++ 58 :: (line.blanks' ++ line.value))

/-- The integer part of the printed value. -/
def integerPart : Nat := digitsValue line.whole

end CounterLine

theorem digits_of_reads {label blanks blanks' value digits : Bytes}
    (hblanks : ∀ c ∈ blanks, isSpace c = true) (hblanks' : ∀ c ∈ blanks', isSpace c = true)
    (hvalue : ∀ c ∈ value.head?, isSpace c = false)
    (h : Reads label (label ++ (blanks ++ 58 :: (blanks' ++ value))) digits)
    : digits = value.takeWhile isDigit := by
  obtain ⟨r⟩ := h
  have hlength : label.length = r.name.length := by
    have := congrArg List.length r.name_eq
    simpa using this.symm
  have hafter := (List.append_inj r.text_eq hlength).2
  have hcolon : ∀ text : Bytes, ∀ c ∈ (58 :: text).head?, isSpace c = false := by
    simp [isSpace]
  have hdrop := congrArg (List.dropWhile isSpace) hafter
  rw [dropWhile_append_of_head hblanks (hcolon _),
    dropWhile_append_of_head r.isSpace_blanks (hcolon _), List.cons.injEq] at hdrop
  have hhead : ∀ c ∈ (digits ++ r.rest).head?, isSpace c = false := by
    intro c hc
    rw [List.head?_append_of_ne_nil _ r.digits_ne_nil] at hc
    exact isSpace_of_isDigit (r.isDigit_digits c (List.mem_of_mem_head? hc))
  have hdigits := congrArg (List.dropWhile isSpace) hdrop.2
  rw [dropWhile_append_of_head hblanks' hvalue,
    dropWhile_append_of_head r.isSpace_blanks' hhead] at hdigits
  rw [hdigits, takeWhile_digits r]

theorem CounterLine.takeWhile_value (line : CounterLine) {after : Bytes}
    (hafter : ∀ c ∈ after.head?, c = 10 ∨ c = 13)
    : (line.value ++ after).takeWhile isDigit = line.whole := by
  unfold CounterLine.value
  rw [List.append_assoc]
  apply takeWhile_append_of_head line.isDigit_whole
  cases line.fraction with
  | none =>
    intro c hc
    rcases hafter c hc with rfl | rfl
    . decide
    . decide
  | some digits => simp [isDigit]

theorem CounterLine.head_value (line : CounterLine) {after : Bytes}
    : ∀ c ∈ (line.value ++ after).head?, isSpace c = false := by
  have hne := line.digits_ne_nil
  unfold CounterLine.value
  cases hwhole : line.whole with
  | nil =>
    cases hfraction : line.fraction with
    | none =>
      rw [hwhole, hfraction] at hne
      contradiction
    | some digits => simp [isSpace]
  | cons b whole =>
    have hb := line.isDigit_whole b (by simp [hwhole])
    simp [isSpace_of_isDigit hb]

theorem CounterLine.digits_of_reads (line : CounterLine) {after digits : Bytes}
    (hafter : ∀ c ∈ after.head?, c = 10 ∨ c = 13) (h : Reads line.label (line.text ++ after) digits)
    : digits = line.whole := by
  rw [← line.takeWhile_value hafter]
  apply StatusPage.digits_of_reads line.isSpace_blanks line.isSpace_blanks' line.head_value
  unfold CounterLine.text at h
  simp only [List.append_assoc, List.cons_append] at h ⊢
  exact h

/-- The search meets the line of the counter first, or a place that reads as the same number. -/
def MetFirst (line : CounterLine) (before after : Bytes) : Prop :=
  ∃ pos digits, FirstReading line.label (before ++ (line.text ++ after)) pos digits
    ∧ (pos = before.length ∨ digitsValue digits = line.integerPart)

theorem extractMetric_line_iff (line : CounterLine) (before after : Bytes)
    (hafter : ∀ c ∈ after.head?, c = 10 ∨ c = 13)
    : extractMetric (before ++ (line.text ++ after)) line.label = line.integerPart
        ↔
      line.integerPart < 2 ^ 31 ∧ MetFirst line before after := by
  constructor
  . intro h
    by_cases hfirst : ∃ pos digits,
        FirstReading line.label (before ++ (line.text ++ after)) pos digits
    . obtain ⟨pos, digits, hfirst⟩ := hfirst
      rw [extractMetric_of_firstReading hfirst] at h
      split at h
      . refine ⟨by omega, pos, digits, hfirst, .inr (by omega)⟩
      . omega
    . rw [extractMetric_of_absent (by simpa using hfirst)] at h
      omega
  . rintro ⟨hsmall, pos, digits, hfirst, hsame⟩
    have hvalue : digitsValue digits = line.integerPart := by
      rcases hsame with rfl | hsame
      . have hreads := hfirst.reads
        rw [List.drop_left] at hreads
        rw [line.digits_of_reads hafter hreads]
        rfl
      . exact hsame
    rw [extractMetric_of_firstReading hfirst, hvalue, if_pos hsmall]

end StatusPage

open StatusPage (CounterLine extractMetric_line_iff)

/-- The texts have anything in front of the line and behind it. -/
theorem counters_exact_iff (before after : Bytes)
    : (∀ key ∈ MemcachedPlugin.keys, ∀ digits : Bytes, digits ≠ [] →
          (∀ c ∈ digits, isDigit c = true) →
          (MemcachedPlugin.extractStatValue (MemcachedPlugin.statsWith before key digits after) key
              = digitsValue digits
            ↔ digitsValue digits < 2 ^ 31 ∧ MemcachedPlugin.MetFirst before key digits after))
        ∧ (∀ line : CounterLine, line.label ∈ ApachePlugin.labels →
          (∀ c ∈ after.head?, c = 10 ∨ c = 13) →
          (ApachePlugin.extractApacheMetric (before ++ (line.text ++ after)) line.label
              = line.integerPart
            ↔ line.integerPart < 2 ^ 31 ∧ StatusPage.MetFirst line before after))
        ∧ (∀ line : CounterLine, line.label ∈ PhpfpmPlugin.labels →
          (∀ c ∈ after.head?, c = 10 ∨ c = 13) →
          (PhpfpmPlugin.extractPhpfpmMetric (before ++ (line.text ++ after)) line.label
              = line.integerPart
            ↔ line.integerPart < 2 ^ 31 ∧ StatusPage.MetFirst line before after)) := by
  refine ⟨?_, ?_, ?_⟩
  . intro key _ digits
    exact MemcachedPlugin.extractStatValue_line_iff before key digits after
  . intro line _
    exact extractMetric_line_iff line before after
  . intro line _
    exact extractMetric_line_iff line before after

def idleLine (label : Bytes) : CounterLine where
  label := label
  blanks := []
  blanks' := str "  "
  whole := str "3"
  fraction := none
  isSpace_blanks := by simp
  isSpace_blanks' := by simp [str, isSpace]
  isDigit_whole := by simp [str, isDigit]
  isDigit_fraction := Decimal.isDigit_noFraction
  digits_ne_nil := by simp [str]

theorem counters_exact_of_idle
    : MemcachedPlugin.extractStatValue
          (MemcachedPlugin.statsWith (str "STAT pid 9\r\n") (str "STAT bytes") (str "64")
            (str "END\r\n")) (str "STAT bytes")
          = digitsValue (str "64")
        ∧ ApachePlugin.extractApacheMetric
            (str "Uptime: 60\n" ++ ((idleLine (str "IdleWorkers")).text ++ str "\n"))
            (str "IdleWorkers")
          = (idleLine (str "IdleWorkers")).integerPart
        ∧ PhpfpmPlugin.extractPhpfpmMetric
            (str "pool: www\n" ++ ((idleLine (str "idle processes")).text ++ str "\n"))
            (str "idle processes")
          = (idleLine (str "idle processes")).integerPart := by
  refine ⟨?_, ?_, ?_⟩
  . apply ((counters_exact_iff (str "STAT pid 9\r\n") (str "END\r\n")).1 (str "STAT bytes")
      (by decide) (str "64") (by simp [str]) (by simp [str, isDigit])).mpr
    refine ⟨by decide, 12, by decide +kernel, .inl (by decide)⟩
  . apply ((counters_exact_iff (str "Uptime: 60\n") (str "\n")).2.1 (idleLine (str "IdleWorkers"))
      (by decide) (by simp [str])).mpr
    refine ⟨by decide, 11, str "3", ?_, .inl (by decide)⟩
    exact StatusPage.firstReading_iff.mpr ⟨{ length := 15, group := str "3" }, by decide +kernel, rfl⟩
  . apply ((counters_exact_iff (str "pool: www\n") (str "\n")).2.2 (idleLine (str "idle processes"))
      (by decide) (by simp [str])).mpr
    refine ⟨by decide, 10, str "3", ?_, .inl (by decide)⟩
    exact StatusPage.firstReading_iff.mpr ⟨{ length := 18, group := str "3" }, by decide +kernel, rfl⟩

/-- A byte counter beyond 2 GiB, a rate below one request, and a peak printed before the present. -/
theorem counters_lost
    : MemcachedPlugin.extractStatValue (str "STAT bytes 2147483648\r\nEND\r\n") (str "STAT bytes")
          = -1
        ∧ ApachePlugin.extractApacheMetric (str "ReqPerSec: .5\nBytesPerSec: 7\n") (str "ReqPerSec")
          = -1
        ∧ PhpfpmPlugin.extractPhpfpmMetric
            (str "max active processes: 9\nactive processes: 2\n") (str "active processes")
          = 9 := by
  decide +kernel

end NetmonPlugins

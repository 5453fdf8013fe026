import NetmonPlugins.Common.HttpApi.Response
import NetmonPlugins.Plugins.Prometheus.Reading

/-!
This module contains the texts with exactly one sample line of a metric, and determines when the
check reads the value of this line: when it is a number without sign and exponent, behind the name
at the start of the line.
-/

namespace NetmonPlugins

/-- The numeral up to its exponent, without the sign. -/
def Decimal.plain (d : Decimal) : Decimal := { d with sign := none, exponent := none }

def Decimal.exponentValue (d : Decimal) : Int := d.exponent.elim 0 Exponent.value

theorem Decimal.plain_magnitude_eq_iff {d : Decimal} (hsign : d.sign = none)
    : d.plain.magnitude = d.value
        ↔
      d.exponentValue = 0 ∨ digitsValue (d.whole ++ d.fraction.getD []) = 0 := by
  have hplain : d.plain.magnitude = digitsValue (d.whole ++ d.fraction.getD [])
      * 10 ^ (0 - (d.fraction.getD []).length : Int) := rfl
  have hvalue : d.value = digitsValue (d.whole ++ d.fraction.getD [])
      * 10 ^ (d.exponentValue - (d.fraction.getD []).length : Int) := by
    simp [value, magnitude, hsign, exponentValue]
  rw [hplain, hvalue, mul_eq_mul_left_iff, Nat.cast_eq_zero]
  apply or_congr_left
  rw [zpow_right_inj₀ (by norm_num) (by norm_num)]
  omega

namespace PrometheusPlugin

open Regex

/-- What the name of a metric consists of. -/
def isNameByte (c : UInt8) : Bool :=
  isDigit c || (65 ≤ c && c ≤ 90) || (97 ≤ c && c ≤ 122) || c = 95 || c = 58

/-- The text begins with a line of samples of the metric. -/
def IsSampleLine (name text : Bytes) : Prop :=
  ∃ lead rest, text = lead ++ (name ++ rest) ∧ (∀ c ∈ lead, isTabOrSpace c = true)
    ∧ ∀ c ∈ rest.head?, isNameByte c = false

def isLineFeed (c : UInt8) : Bool := c = 10

/-- No line but the one at the position is a sample of the metric. -/
def IsSole (name text : Bytes) (start : Nat) : Prop :=
  ∀ pos, pos < text.length → IsLineStart isLineFeed text pos → pos ≠ start
    → ¬ IsSampleLine name (text.drop pos)

def isSampleLine (name text : Bytes) : Bool :=
  (List.range (text.length + 1)).any fun k =>
    (text.take k).all isTabOrSpace && name.isPrefixOf (text.drop k)
      && (text.drop (k + name.length)).head?.all (!isNameByte ·)

theorem isSampleLine_iff {name text : Bytes}
    : isSampleLine name text = true ↔ IsSampleLine name text := by
  unfold isSampleLine
  simp only [List.any_eq_true, List.mem_range, Bool.and_eq_true, List.all_eq_true,
    List.isPrefixOf_iff_prefix, Option.all_eq_true, Bool.not_eq_true', and_assoc]
  constructor
  . rintro ⟨k, -, hlead, ⟨rest, hrest⟩, hhead⟩
    refine ⟨text.take k, rest, ?_, hlead, ?_⟩
    . rw [hrest, List.take_append_drop]
    . rwa [← List.drop_drop, ← hrest, List.drop_left] at hhead
  . rintro ⟨lead, rest, rfl, hlead, hrest⟩
    refine ⟨lead.length, Nat.lt_succ_of_le (by simp), by simpa using hlead, by simp, ?_⟩
    rwa [← List.drop_drop, List.drop_left, List.drop_left]

instance (name text : Bytes) : Decidable (IsSampleLine name text) :=
  decidable_of_iff _ isSampleLine_iff

instance (name text : Bytes) (start : Nat) : Decidable (IsSole name text start) :=
  inferInstanceAs (Decidable (∀ pos, pos < text.length →
    (∀ c ∈ (text.take pos).getLast?, isLineFeed c = true) → pos ≠ start
      → ¬ IsSampleLine name (text.drop pos)))

structure Sample (name text : Bytes) where
  before : Bytes
  lead : Bytes
  gap : Bytes
  labels : Option Bytes
  gap' : Bytes
  value : Decimal
  after : Bytes
  text_eq : text = before
    ++ (lead ++ (name ++ (gap ++ (labelsText labels ++ (gap' ++ (value.text ++ after))))))
  name_ne_nil : name ≠ []
  isNameByte_name : ∀ c ∈ name, isNameByte c = true
  isLineFeed_before : ∀ c ∈ before.getLast?, isLineFeed c = true
  isTabOrSpace_lead : ∀ c ∈ lead, isTabOrSpace c = true
  isTabOrSpace_gap : ∀ c ∈ gap, isTabOrSpace c = true
  isTabOrSpace_gap' : ∀ c ∈ gap', isTabOrSpace c = true
  -- The value is apart from the name.
  gap_eq_nil : labels = none → gap = []
  gap'_ne_nil : labels = none → gap' ≠ []
  braces_notMem : ∀ labelText ∈ labels, (123 : UInt8) ∉ labelText ∧ (125 : UInt8) ∉ labelText
  isSpace_after : ∀ c ∈ after.head?, isSpace c = true
  isSole : IsSole name text before.length

theorem isSpace_of_isTabOrSpace {c : UInt8} (h : isTabOrSpace c = true) : isSpace c = true := by
  unfold isTabOrSpace at h
  unfold isSpace
  grind

theorem not_isNameByte_of_isSpace {c : UInt8} (h : isSpace c = true) : isNameByte c = false := by
  unfold isSpace at h
  unfold isNameByte isDigit
  grind

theorem Reads.isSampleLine {isLabelled : Bool} {name text : Bytes} {q : ℚ}
    (h : Reads isLabelled name text q)
    : IsSampleLine name text := by
  obtain ⟨run, tail, ⟨rfl, ⟨labels, blanks, rfl, -, -, hne, hblanks⟩, -⟩, -⟩ := h
  refine ⟨[], labelsText labels ++ (blanks ++ tail), by simp, by simp, ?_⟩
  intro c hc
  cases labels with
  | none =>
    rw [labelsText, List.nil_append, List.head?_append_of_ne_nil _ hne] at hc
    exact not_isNameByte_of_isSpace (hblanks c (List.mem_of_mem_head? hc))
  | some labels =>
    have hc : 123 = c := by simpa [labelsText] using hc
    rw [← hc]
    decide

namespace Sample

variable {name text : Bytes} (s : Sample name text)

def start : Nat := s.before.length

/-- What the search reads when it gets to the value. -/
def plainReading : ℚ :=
  if strtod.isOutOfRange s.value.plain.magnitude then 0 else s.value.plain.magnitude

/-- The search gets to the value. -/
structure Reached : Prop where
  lead_eq_nil : s.lead = []
  gap_eq_nil : s.gap = []
  gap'_ne_nil : s.gap' ≠ []
  sign_eq : s.value.sign = none
  whole_ne_nil : s.value.whole ≠ []

structure Readable : Prop where
  reached : s.Reached
  inRange : strtod.isOutOfRange s.value.plain.magnitude = false
  exponent_eq : s.value.exponentValue = 0
    ∨ digitsValue (s.value.whole ++ s.value.fraction.getD []) = 0

/-- The search meets another place first, which can only be one behind a carriage return. -/
def ReadElsewhere (q : ℚ) : Prop := ∃ pos, pos ≠ s.start ∧ FirstReading name text pos q

theorem drop_start
    : text.drop s.start
        =
      s.lead ++ (name
        ++ (s.gap ++ (labelsText s.labels ++ (s.gap' ++ (s.value.text ++ s.after))))) := by
  exact (congrArg (List.drop s.before.length) s.text_eq).trans List.drop_left

theorem isLineStart_start : IsLineStart isLineTerminator text s.start := by
  have hbefore : ∀ c ∈ s.before.getLast?, isLineTerminator c = true := by
    intro c hc
    have hfeed := s.isLineFeed_before c hc
    unfold isLineFeed at hfeed
    simp [isLineTerminator, hfeed]
  rw [IsLineStart, start, (congrArg (List.take s.before.length) s.text_eq).trans List.take_left]
  exact hbefore

theorem head_value : ∀ c ∈ (s.value.text ++ s.after).head?, isSpace c = false := by
  intro c hc
  rw [List.head?_append_of_ne_nil _ s.value.text_ne_nil, Decimal.text] at hc
  cases hsign : s.value.sign with
  | none =>
    rw [hsign, signText, List.nil_append] at hc
    exact (s.value.head_unsignedText c hc).2.2
  | some negative =>
    cases negative with
    | false =>
      have hc : 43 = c := by simpa [hsign, signText] using hc
      rw [← hc]
      decide
    | true =>
      have hc : 45 = c := by simpa [hsign, signText] using hc
      rw [← hc]
      decide

theorem denotes_value (hsign : s.value.sign = none) (hwhole : s.value.whole ≠ [])
    : Denotes (s.value.text ++ s.after) s.plainReading := by
  have htext : s.value.text ++ s.after
      = s.value.plain.text ++ (s.value.exponentText ++ s.after) := by
    simp [Decimal.text, Decimal.unsignedText, Decimal.plain, Decimal.fractionText,
      Decimal.exponentText, signText, hsign]
  rw [htext]
  apply Denotes.decimal s.value.plain _ rfl hwhole rfl
  intro c hc
  cases hexponent : s.value.exponent with
  | none =>
    have hspace := s.isSpace_after c (by simpa [Decimal.exponentText, hexponent] using hc)
    refine ⟨isDigit_of_isSpace hspace, ?_⟩
    rintro - rfl
    contradiction
  | some exponent =>
    have hc : exponent.mark = c := by
      simpa [Decimal.exponentText, hexponent, Decimal.Exponent.text] using hc
    rw [← hc]
    rcases exponent.mark_eq with hmark | hmark
    . simp [hmark, isDigit]
    . simp [hmark, isDigit]

theorem unsigned_of_denotes {q : ℚ} (h : Denotes (s.value.text ++ s.after) q)
    : s.value.sign = none ∧ s.value.whole ≠ [] := by
  obtain ⟨c, hc, hstart⟩ := head_of_denotes h
  rw [List.head?_append_of_ne_nil _ s.value.text_ne_nil, Decimal.text] at hc
  cases hsign : s.value.sign with
  | some negative =>
    cases negative with
    | false =>
      have hc : 43 = c := by simpa [hsign, signText] using hc
      simp [← hc, isDigit] at hstart
    | true =>
      have hc : 45 = c := by simpa [hsign, signText] using hc
      simp [← hc, isDigit] at hstart
  | none =>
    refine ⟨rfl, ?_⟩
    intro hwhole
    have hdigits := s.value.digits_ne_nil
    cases hfraction : s.value.fraction with
    | none => simp [hwhole, hfraction] at hdigits
    | some digits =>
      have hc : 46 = c := by
        simpa [hsign, signText, Decimal.unsignedText, hwhole, Decimal.fractionText, hfraction]
          using hc
      simp [← hc, isDigit] at hstart

theorem eq_of_blanks {blanks tail : Bytes} (hblanks : ∀ c ∈ blanks, isSpace c = true)
    (htail : ∀ c ∈ tail.head?, isSpace c = false)
    (h : s.gap' ++ (s.value.text ++ s.after) = blanks ++ tail)
    : s.gap' = blanks ∧ s.value.text ++ s.after = tail := by
  have hgap' : ∀ c ∈ s.gap', isSpace c = true :=
    fun c hc => isSpace_of_isTabOrSpace (s.isTabOrSpace_gap' c hc)
  have htake := congrArg (List.takeWhile isSpace) h
  rw [takeWhile_append_of_head hgap' s.head_value, takeWhile_append_of_head hblanks htail] at htake
  rw [htake] at h
  exact ⟨htake, List.append_cancel_left h⟩

/-- No label has a brace, so the first closing brace ends the labels. -/
theorem eq_of_labels {labels labels' rest rest' : Bytes} (hlabels : (125 : UInt8) ∉ labels)
    (hlabels' : (125 : UInt8) ∉ labels')
    (h : labelsText (some labels) ++ rest = labelsText (some labels') ++ rest')
    : rest = rest' := by
  have hne : ∀ text : Bytes, (125 : UInt8) ∉ text → ∀ c ∈ text, (c != 125) = true := by
    intro text hnot c hc
    rw [bne_iff_ne]
    rintro rfl
    exact hnot hc
  have hsplit : labels ++ 125 :: rest = labels' ++ 125 :: rest' := by
    simpa [labelsText] using h
  have hdrop := congrArg (List.dropWhile (· != 125)) hsplit
  rw [dropWhile_append_of_head (hne labels hlabels) (by simp),
    dropWhile_append_of_head (hne labels' hlabels') (by simp), List.cons.injEq] at hdrop
  exact hdrop.2

theorem lead_eq_nil_of_front {isLabelled : Bool} {run tail : Bytes}
    (h : Front isLabelled name (text.drop s.start) run tail)
    : s.lead = [] := by
  obtain ⟨htext, ⟨labels, blanks, rfl, -⟩, -⟩ := h
  rw [s.drop_start] at htext
  cases hlead : s.lead with
  | nil => rfl
  | cons c lead =>
    have hblank := s.isTabOrSpace_lead c (by simp [hlead])
    have hhead := congrArg List.head? htext
    rw [hlead, List.append_assoc, List.cons_append, List.head?_cons,
      List.head?_append_of_ne_nil _ s.name_ne_nil] at hhead
    have hbyte := s.isNameByte_name c (List.mem_of_mem_head? hhead.symm)
    rw [not_isNameByte_of_isSpace (isSpace_of_isTabOrSpace hblank)] at hbyte
    contradiction

theorem reached_of_reads {isLabelled : Bool} {q : ℚ}
    (h : Reads isLabelled name (text.drop s.start) q)
    : s.labels.isSome = isLabelled ∧ s.Reached := by
  obtain ⟨run, tail, hfront, hdenotes⟩ := h
  have hlead := s.lead_eq_nil_of_front hfront
  obtain ⟨htext, ⟨labels, blanks, rfl, rfl, hbrace, hne, hblanks⟩, htail⟩ := hfront
  rw [s.drop_start, hlead, List.nil_append, List.append_assoc, List.append_cancel_left_eq,
    List.append_assoc] at htext
  have hgap : s.gap = [] ∧ s.labels.isSome = labels.isSome
      ∧ s.gap' ++ (s.value.text ++ s.after) = blanks ++ tail := by
    cases hlabels : s.labels with
    | none =>
      rw [s.gap_eq_nil hlabels, hlabels, labelsText, List.nil_append, List.nil_append] at htext
      cases labels with
      | none => exact ⟨s.gap_eq_nil hlabels, rfl, htext⟩
      | some labels =>
        obtain ⟨c, gap', hc⟩ := List.exists_cons_of_ne_nil (s.gap'_ne_nil hlabels)
        have hblank := s.isTabOrSpace_gap' c (by simp [hc])
        rw [hc, labelsText, List.cons_append, List.cons_append, List.cons.injEq] at htext
        rw [htext.1] at hblank
        contradiction
    | some labels' =>
      have hbrace' := (s.braces_notMem labels' hlabels).2
      rw [hlabels] at htext
      cases labels with
      | none =>
        have hgap : ∀ c ∈ s.gap, isSpace c = true :=
          fun c hc => isSpace_of_isTabOrSpace (s.isTabOrSpace_gap c hc)
        have hdrop := congrArg (List.dropWhile isSpace) htext
        rw [labelsText, labelsText, List.nil_append,
          dropWhile_append_of_head hgap (by simp [isSpace]),
          dropWhile_append_of_head hblanks htail] at hdrop
        obtain ⟨c, hc, hstart⟩ := head_of_denotes hdenotes
        have hc : 123 = c := by simpa [← hdrop] using hc
        simp [← hc, isDigit] at hstart
      | some labels =>
        cases hgap : s.gap with
        | nil =>
          rw [hgap, List.nil_append] at htext
          exact ⟨rfl, rfl, eq_of_labels hbrace' (hbrace labels rfl) htext⟩
        | cons c gap =>
          have hblank := s.isTabOrSpace_gap c (by simp [hgap])
          rw [hgap, labelsText, labelsText, List.cons_append, List.cons_append, List.cons_append,
            List.cons.injEq] at htext
          rw [htext.1] at hblank
          contradiction
  obtain ⟨hblanks', hvalue⟩ := s.eq_of_blanks hblanks htail hgap.2.2
  rw [← hvalue] at hdenotes
  have hunsigned := s.unsigned_of_denotes hdenotes
  rw [← hblanks'] at hne
  exact ⟨hgap.2.1, hlead, hgap.1, hne, hunsigned.1, hunsigned.2⟩

theorem reads_of_reached (h : s.Reached)
    : Reads s.labels.isSome name (text.drop s.start) s.plainReading := by
  refine ⟨name ++ (labelsText s.labels ++ s.gap'), s.value.text ++ s.after,
    ⟨?_, ⟨s.labels, s.gap', rfl, rfl, ?_, h.gap'_ne_nil, ?_⟩, s.head_value⟩,
    s.denotes_value h.sign_eq h.whole_ne_nil⟩
  . rw [s.drop_start, h.lead_eq_nil, h.gap_eq_nil]
    simp
  . intro labels hlabels
    exact (s.braces_notMem labels hlabels).2
  . intro c hc
    exact isSpace_of_isTabOrSpace (s.isTabOrSpace_gap' c hc)

theorem plainReading_of_reads {isLabelled : Bool} {q : ℚ}
    (h : Reads isLabelled name (text.drop s.start) q)
    : q = s.plainReading := by
  obtain ⟨hlabels, hreached⟩ := s.reached_of_reads h
  have hreads := s.reads_of_reached hreached
  rw [hlabels] at hreads
  obtain ⟨m, hmatch, hvalue⟩ := exists_match_of_reads h
  obtain ⟨m', hmatch', hvalue'⟩ := exists_match_of_reads hreads
  rw [hmatch, Option.some.injEq] at hmatch'
  rw [← hmatch', hvalue, Double.fin.injEq] at hvalue'
  exact hvalue'

theorem plainReading_eq_value_iff (hsign : s.value.sign = none)
    : s.plainReading = s.value.value
        ↔
      strtod.isOutOfRange s.value.plain.magnitude = false
        ∧ (s.value.exponentValue = 0
          ∨ digitsValue (s.value.whole ++ s.value.fraction.getD []) = 0) := by
  unfold plainReading
  cases hrange : strtod.isOutOfRange s.value.plain.magnitude with
  | false =>
    simp only [Bool.false_eq_true, ↓reduceIte, true_and]
    exact Decimal.plain_magnitude_eq_iff hsign
  | true =>
    simp only [↓reduceIte, Bool.true_eq_false, false_and, iff_false]
    intro hzero
    have hvalue : s.value.value = digitsValue (s.value.whole ++ s.value.fraction.getD [])
        * 10 ^ (s.value.exponentValue - (s.value.fraction.getD []).length : Int) := by
      simp [Decimal.value, Decimal.magnitude, hsign, Decimal.exponentValue]
    rw [hvalue, eq_comm, mul_eq_zero_iff_right (zpow_ne_zero _ (by norm_num)), Nat.cast_eq_zero]
      at hzero
    have hplain : s.value.plain.magnitude = 0 := by
      simp [Decimal.plain, Decimal.magnitude, hzero]
    rw [hplain] at hrange
    revert hrange
    decide +kernel

theorem pos_of_readElsewhere {q : ℚ} (h : s.ReadElsewhere q)
    : ∃ pos, (text.take pos).getLast? = some 13 := by
  obtain ⟨pos, hpos, hfirst⟩ := h
  obtain ⟨hstart, kind, hreads⟩ := hfirst.exists_reads
  have hinside : pos < text.length := by
    by_contra hend
    obtain ⟨lead, rest, hnil, -⟩ := hreads.isSampleLine
    rw [List.drop_eq_nil_of_le (by omega)] at hnil
    simp [s.name_ne_nil] at hnil
  refine ⟨pos, ?_⟩
  by_contra hreturn
  apply s.isSole pos hinside ?_ hpos hreads.isSampleLine
  intro c hc
  have hends := hstart c hc
  simp only [isLineTerminator, Bool.or_eq_true, decide_eq_true_eq] at hends
  rcases hends with rfl | rfl
  . rfl
  . contradiction

/-- Without carriage returns the sample line is the only place that is read. -/
theorem not_readElsewhere_of_notMem (h : (13 : UInt8) ∉ text) (q : ℚ) : ¬ s.ReadElsewhere q := by
  intro helsewhere
  obtain ⟨pos, hlast⟩ := s.pos_of_readElsewhere helsewhere
  exact h (List.mem_of_mem_take (List.mem_of_getLast? hlast))

end Sample

theorem report_ne_notFound (config : Config) (value : Double) (name : Bytes)
    : report config value ≠ notFound name := by
  intro h
  have hcode := congrArg PluginResult.code h
  unfold report at hcode
  dsimp only at hcode
  rw [apply_ite PluginResult.code, apply_ite PluginResult.code] at hcode
  dsimp only [notFound] at hcode
  split at hcode
  . contradiction
  . split at hcode
    . contradiction
    . contradiction

section

variable (sslEnabled : Bool) (server : Server) (config : Config) {text : Bytes}

theorem check_ne_notFound_iff (s : Sample config.metricName text) (hhost : config.hostname ≠ [])
    (hserved : httpGet sslEnabled server config.hostname config.port config.path false
      config.timeoutSeconds = .ok (200, text))
    : check sslEnabled server config ≠ notFound config.metricName
        ↔
      ¬ extractMetricValue text config.metricName < 0 := by
  have htext : text ≠ [] := by
    intro hnil
    have heq := s.text_eq.symm.trans hnil
    simp [s.name_ne_nil] at heq
  unfold check
  rw [if_neg hhost, hserved]
  dsimp only
  rw [if_neg (by simp [htext]), if_neg s.name_ne_nil]
  split
  . next hneg => exact iff_of_false (by simp) (not_not_intro hneg)
  . next hneg => exact iff_of_true (report_ne_notFound config _ _) hneg

theorem sample_exact_iff (s : Sample config.metricName text) (hhost : config.hostname ≠ [])
    (hserved : httpGet sslEnabled server config.hostname config.port config.path false
      config.timeoutSeconds = .ok (200, text))
    : extractMetricValue text config.metricName = .fin s.value.value
          ∧ check sslEnabled server config ≠ notFound config.metricName
        ↔
      (s.Readable ∧ ∀ q, ¬ s.ReadElsewhere q) ∨ s.ReadElsewhere s.value.value := by
  rw [check_ne_notFound_iff sslEnabled server config s hhost hserved]
  by_cases hfound : ∃ pos q, FirstReading config.metricName text pos q
  . obtain ⟨pos, q, hfirst⟩ := hfound
    obtain ⟨-, kind, hreads⟩ := hfirst.exists_reads
    have hnonneg : ¬ Double.fin q < 0 := by
      obtain ⟨run, tail, -, hdenotes⟩ := hreads
      rw [Double.ofNat_eq_fin, Double.fin_lt_fin]
      simpa using nonneg_of_denotes hdenotes
    rw [extractMetricValue_of_firstReading hfirst, Double.fin.injEq, and_iff_left hnonneg]
    by_cases hpos : pos = s.start
    . have helsewhere : ∀ q', ¬ s.ReadElsewhere q' := by
        rintro q' ⟨pos', hpos', hfirst'⟩
        exact hpos' ((hfirst'.pos_unique hfirst).trans hpos)
      rw [hpos] at hreads
      obtain ⟨-, hreached⟩ := s.reached_of_reads hreads
      rw [s.plainReading_of_reads hreads, s.plainReading_eq_value_iff hreached.sign_eq]
      constructor
      . rintro ⟨hrange, hexponent⟩
        exact .inl ⟨⟨hreached, hrange, hexponent⟩, helsewhere⟩
      . rintro (⟨hreadable, -⟩ | hother)
        . exact ⟨hreadable.inRange, hreadable.exponent_eq⟩
        . exact absurd hother (helsewhere _)
    . constructor
      . rintro rfl
        exact .inr ⟨pos, hpos, hfirst⟩
      . rintro (⟨-, hnone⟩ | ⟨pos', hpos', hfirst'⟩)
        . exact absurd ⟨pos, hpos, hfirst⟩ (hnone q)
        . have hvalue := extractMetricValue_of_firstReading hfirst'
          rw [extractMetricValue_of_firstReading hfirst, Double.fin.injEq] at hvalue
          exact hvalue
  . have habsent : ∀ pos q, ¬ FirstReading config.metricName text pos q := by
      intro pos q hfirst
      exact hfound ⟨pos, q, hfirst⟩
    have hlength : s.start ≤ text.length := by
      rw [congrArg List.length s.text_eq, List.length_append]
      exact Nat.le_add_right _ _
    rw [extractMetricValue_of_absent habsent]
    apply iff_of_false
    . rintro ⟨-, hneg⟩
      apply hneg
      decide +kernel
    . rintro (⟨hreadable, -⟩ | ⟨pos, -, hfirst⟩)
      . exact hfound (exists_firstReading hlength s.isLineStart_start
          (s.reads_of_reached hreadable.reached))
      . exact habsent pos _ hfirst

end

/-- A text with a sample of the metric `m` in its last line. -/
def lastSample (before : Bytes) (labels : Option Bytes) (value : Decimal)
    (hbefore : ∀ c ∈ before.getLast?, isLineFeed c = true)
    (hlabels : ∀ labelText ∈ labels, (123 : UInt8) ∉ labelText ∧ (125 : UInt8) ∉ labelText)
    (hsole : IsSole (str "m")
      (before ++ (str "m" ++ (labelsText labels ++ (str " " ++ (value.text ++ str "\n")))))
      before.length)
    : Sample (str "m")
        (before ++ (str "m" ++ (labelsText labels ++ (str " " ++ (value.text ++ str "\n"))))) where
  before := before
  lead := []
  gap := []
  labels := labels
  gap' := str " "
  value := value
  after := str "\n"
  text_eq := rfl
  name_ne_nil := by decide
  isNameByte_name := by simp [str, isNameByte, isDigit]
  isLineFeed_before := hbefore
  isTabOrSpace_lead := by simp
  isTabOrSpace_gap := by simp
  isTabOrSpace_gap' := by simp [str, isTabOrSpace]
  gap_eq_nil := fun _ => rfl
  gap'_ne_nil := fun _ => by decide
  braces_notMem := hlabels
  isSpace_after := by simp [str, isSpace]
  isSole := hsole

def half : Decimal where
  sign := none
  whole := str "0"
  fraction := some (str "5")
  exponent := none
  digits_ne_nil := by decide
  isDigit_whole := by simp [str, isDigit]
  isDigit_fraction := by simp [str, isDigit]

def million : Decimal where
  sign := none
  whole := str "1"
  fraction := none
  exponent := some {
    mark := 101
    sign := some false
    digits := str "06"
    mark_eq := .inl rfl
    digits_ne_nil := by decide
    isDigit_digits := by simp [str, isDigit] }
  digits_ne_nil := by decide
  isDigit_whole := by simp [str, isDigit]
  isDigit_fraction := Decimal.isDigit_noFraction

def minusFive : Decimal where
  sign := some true
  whole := str "5"
  fraction := none
  exponent := none
  digits_ne_nil := by decide
  isDigit_whole := by simp [str, isDigit]
  isDigit_fraction := Decimal.isDigit_noFraction

def halfText : Bytes := str "# TYPE m gauge\nm_total 9\nm\x7bjob=\"web\"\x7d 0.5\n"

def halfSample : Sample (str "m") halfText :=
  lastSample (str "# TYPE m gauge\nm_total 9\n") (some (str "job=\"web\"")) half
    (by simp [str, isLineFeed]) (by simp [str]) (by decide +kernel)

def millionSample : Sample (str "m") (str "m 1e+06\n") :=
  lastSample [] none million (by simp) (by simp) (by decide +kernel)

def minusFiveSample : Sample (str "m") (str "m -5\n") :=
  lastSample [] none minusFive (by simp) (by simp) (by decide +kernel)

def watching : Config where
  hostname := str "web"
  metricName := str "m"

theorem sample_exact_of_half
    : extractMetricValue halfText watching.metricName = .fin halfSample.value.value
        ∧ check true (serving halfText (by decide)) watching ≠ notFound watching.metricName := by
  apply (sample_exact_iff true (serving halfText (by decide)) watching halfSample (by decide)
    (httpGetAuth_serving true halfText _ _ _ _ _ _ _ _ (by decide))).mpr
  left
  refine ⟨⟨⟨rfl, rfl, by decide, rfl, by decide⟩, by decide +kernel, .inl (by decide +kernel)⟩, ?_⟩
  exact halfSample.not_readElsewhere_of_notMem (by decide)

/-- A million in the notation with an exponent is read as one, and a negative value is not found. -/
theorem sample_inexact
    : extractMetricValue (str "m 1e+06\n") (str "m") = .fin 1
        ∧ millionSample.value.value = 1000000
        ∧ check true (serving (str "m -5\n") (by decide)) watching = notFound (str "m")
        ∧ minusFiveSample.value.value = -5 := by
  decide +kernel

end PrometheusPlugin
end NetmonPlugins

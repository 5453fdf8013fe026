import NetmonPlugins.Cxx.Decimal
import NetmonPlugins.Cxx.Digits
import NetmonPlugins.Plugins.Prometheus.Impl

/-!
This module contains what the search reads of a metric: the name, its labels, blanks and a number
without sign and exponent.
-/

namespace NetmonPlugins
namespace PrometheusPlugin

open Regex

def labelsText : Option Bytes → Bytes
  | none => []
  | some labels => 123 :: (labels ++ [125])

/-- The number that the text begins with. What is out of range counts as zero. -/
inductive Denotes : Bytes → ℚ → Prop where
  | nan (rest : Bytes) : Denotes (str "nan" ++ rest) 0
  | inf (rest : Bytes) : Denotes (str "inf" ++ rest) 0
  | decimal (d : Decimal) (rest : Bytes) (sign_eq : d.sign = none) (whole_ne_nil : d.whole ≠ [])
    (exponent_eq : d.exponent = none)
    (ends : ∀ c ∈ rest.head?, isDigit c = false ∧ (d.fraction = none → c ≠ 46))
    : Denotes (d.text ++ rest) (if strtod.isOutOfRange d.magnitude then 0 else d.magnitude)

/-- What a match takes before the number. -/
structure Front (isLabelled : Bool) (name s run tail : Bytes) : Prop where
  text_eq : s = run ++ tail
  exists_labels : ∃ labels blanks, run = name ++ (labelsText labels ++ blanks)
    ∧ labels.isSome = isLabelled ∧ (∀ text ∈ labels, (125 : UInt8) ∉ text)
    ∧ blanks ≠ [] ∧ ∀ c ∈ blanks, isSpace c = true
  head_tail : ∀ c ∈ tail.head?, isSpace c = false

/-- The text begins with a sample of the metric, with or without labels. -/
def Reads (isLabelled : Bool) (name s : Bytes) (q : ℚ) : Prop :=
  ∃ run tail, Front isLabelled name s run tail ∧ Denotes tail q

/-- The first start of a line with such a sample. -/
structure FirstOf (isLabelled : Bool) (name text : Bytes) (pos : Nat) (q : ℚ) : Prop where
  pos_le : pos ≤ text.length
  isLineStart : IsLineStart isLineTerminator text pos
  reads : Reads isLabelled name (text.drop pos) q
  first : ∀ j, j < pos → IsLineStart isLineTerminator text j
    → ∀ q', ¬ Reads isLabelled name (text.drop j) q'

/-- A sample with labels is preferred to one without, wherever it is. -/
def FirstReading (name text : Bytes) (pos : Nat) (q : ℚ) : Prop :=
  FirstOf true name text pos q
    ∨ (∀ pos' q', ¬ FirstOf true name text pos' q') ∧ FirstOf false name text pos q

def pattern (isLabelled : Bool) (name : Bytes) : List (List Item) :=
  samplePattern (if isLabelled then labelled name else literal name)

section

variable {items : List Item} {m m' : Match}

theorem matchHere_labels {labels s : Bytes} (hlabels : (125 : UInt8) ∉ labels)
    : matchHere (.one (· = 123) :: .many (· ≠ 125) :: .one (· = 125) :: items)
        (labelsText (some labels) ++ s) m
        =
      matchHere items s (m.pushAll (labelsText (some labels))) := by
  have hrun : ∀ c ∈ labels, decide (c ≠ 125) = true := by
    intro c hc
    rw [decide_eq_true_eq]
    rintro rfl
    exact hlabels hc
  have hbrace : ∀ c rest m, decide (c ≠ 125) = true →
      matchHere (.one (· = 125) :: items) (c :: rest) m = none := by
    intro c rest m hc
    exact matchHere_one_of_ne (of_decide_eq_true hc) rest m items
  rw [labelsText, List.cons_append, List.append_assoc, matchHere, if_pos (by decide), matchHere,
    manyThen_append hrun (by simp) (.inr hbrace), List.cons_append, List.nil_append, matchHere,
    if_pos (by decide), Match.pushAll_cons, Match.pushAll_append]
  rfl

theorem exists_of_matchHere_labels {s : Bytes}
    (h : matchHere (.one (· = 123) :: .many (· ≠ 125) :: .one (· = 125) :: items) s m = some m')
    : ∃ labels rest, s = labelsText (some labels) ++ rest ∧ (125 : UInt8) ∉ labels
        ∧ matchHere items rest (m.pushAll (labelsText (some labels))) = some m' := by
  cases s with
  | nil => contradiction
  | cons c s =>
    rw [matchHere, Option.ite_none_right_eq_some, decide_eq_true_eq, matchHere] at h
    obtain ⟨rfl, h⟩ := h
    obtain ⟨labels, rest, rfl, hlabels, h⟩ := exists_of_manyThen h
    cases rest with
    | nil => contradiction
    | cons c rest =>
      rw [matchHere, Option.ite_none_right_eq_some, decide_eq_true_eq] at h
      obtain ⟨rfl, h⟩ := h
      refine ⟨labels, rest, by simp [labelsText], ?_, ?_⟩
      . intro hmem
        simpa using hlabels 125 hmem
      . rw [labelsText, Match.pushAll_cons, Match.pushAll_append]
        exact h

theorem matchHere_blanks {blanks tail : Bytes} (hne : blanks ≠ [])
    (hblanks : ∀ c ∈ blanks, isSpace c = true) (htail : ∀ c ∈ tail.head?, isSpace c = false)
    (hitems : ∀ c rest m, isSpace c = true → matchHere items (c :: rest) m = none)
    : matchHere (.one isSpace :: .many isSpace :: items) (blanks ++ tail) m
        =
      matchHere items tail (m.pushAll blanks) := by
  cases blanks with
  | nil => contradiction
  | cons c blanks =>
    rw [List.forall_mem_cons] at hblanks
    rw [List.cons_append, matchHere, if_pos hblanks.1, matchHere,
      manyThen_append hblanks.2 htail (.inr hitems), Match.pushAll_cons]

theorem exists_of_matchHere_blanks {s : Bytes}
    (hitems : ∀ c rest m, isSpace c = true → matchHere items (c :: rest) m = none)
    (h : matchHere (.one isSpace :: .many isSpace :: items) s m = some m')
    : ∃ blanks tail, s = blanks ++ tail ∧ blanks ≠ [] ∧ (∀ c ∈ blanks, isSpace c = true)
        ∧ ∀ c ∈ tail.head?, isSpace c = false := by
  cases s with
  | nil => contradiction
  | cons c s =>
    rw [matchHere, Option.ite_none_right_eq_some, matchHere] at h
    obtain ⟨hc, h⟩ := h
    obtain ⟨blanks, tail, rfl, hblanks, h⟩ := exists_of_manyThen h
    refine ⟨c :: blanks, tail, rfl, by simp, ?_, ?_⟩
    . rw [List.forall_mem_cons]
      exact ⟨hc, hblanks⟩
    . intro b hb
      by_contra hspace
      obtain ⟨rest, rfl⟩ := List.head?_eq_some_iff.mp hb
      rw [hitems b rest _ (by simpa using hspace)] at h
      contradiction

end

section

variable {isLabelled : Bool} {name s run tail : Bytes} {items : List Item} {m : Match}

/-- There is one way to get to the number. -/
theorem matchHere_front (hfront : Front isLabelled name s run tail)
    (hitems : ∀ c rest m, isSpace c = true → matchHere items (c :: rest) m = none)
    : matchHere
        ((if isLabelled then labelled name else literal name)
          ++ (.one isSpace :: .many isSpace :: items)) s {}
        =
      matchHere items tail (Match.pushAll {} run) := by
  obtain ⟨htext, ⟨labels, blanks, rfl, hkind, hbrace, hne, hblanks⟩, htail⟩ := hfront
  rw [htext]
  cases labels with
  | none =>
    rw [← hkind]
    simp only [Option.isSome_none, Bool.false_eq_true, ↓reduceIte, labelsText, List.nil_append,
      List.append_assoc]
    rw [matchHere_literal, matchHere_blanks hne hblanks htail hitems, Match.pushAll_append]
  | some labels =>
    rw [← hkind]
    simp only [Option.isSome_some, ↓reduceIte, labelled, List.append_assoc, List.cons_append,
      List.nil_append]
    rw [matchHere_literal, matchHere_labels (hbrace labels rfl),
      matchHere_blanks hne hblanks htail hitems, Match.pushAll_append, Match.pushAll_append]

theorem exists_front_of_matchHere
    (hitems : ∀ c rest m, isSpace c = true → matchHere items (c :: rest) m = none)
    (h : matchHere
      ((if isLabelled then labelled name else literal name)
        ++ (.one isSpace :: .many isSpace :: items)) s {} = some m)
    : ∃ run tail, Front isLabelled name s run tail := by
  cases isLabelled with
  | false =>
    obtain ⟨rest, rfl, hrest⟩ := exists_of_matchHere_literal h
    obtain ⟨blanks, tail, rfl, hne, hblanks, htail⟩ := exists_of_matchHere_blanks hitems hrest
    exact ⟨name ++ blanks, tail, by simp, ⟨none, blanks, rfl, rfl, by simp, hne, hblanks⟩, htail⟩
  | true =>
    simp only [↓reduceIte, labelled, List.append_assoc, List.cons_append, List.nil_append] at h
    obtain ⟨rest, rfl, hrest⟩ := exists_of_matchHere_literal h
    obtain ⟨labels, rest', rfl, hbrace, hrest'⟩ := exists_of_matchHere_labels hrest
    obtain ⟨blanks, tail, rfl, hne, hblanks, htail⟩ := exists_of_matchHere_blanks hitems hrest'
    refine ⟨name ++ (labelsText (some labels) ++ blanks), tail, by simp,
      ⟨some labels, blanks, rfl, rfl, ?_, hne, hblanks⟩, htail⟩
    intro text htext
    rw [Option.mem_some] at htext
    rwa [← htext]

end

def firstNumber (s : Bytes) (m : Match) : Option Match :=
  number.findSome? fun items => matchHere (.openGroup :: (items ++ [.closeGroup])) s m

/-- What a match becomes when it takes the text as its number. -/
def taken (m : Match) (text : Bytes) : Match :=
  { ({ m with inGroup := true }.pushAll text) with inGroup := false }

theorem matchHere_number_of_not_digit {c : UInt8} (hc : isDigit c = false) (s : Bytes) (m : Match)
    : firstNumber (c :: s) m
        =
      (matchHere (.openGroup :: (literal (str "nan") ++ [.closeGroup])) (c :: s) m).or
        (matchHere (.openGroup :: (literal (str "inf") ++ [.closeGroup])) (c :: s) m) := by
  simp only [firstNumber, number, List.findSome?_cons, List.findSome?_nil, List.cons_append,
    List.nil_append, matchHere, hc, Bool.false_eq_true, ↓reduceIte]
  cases matchHere (literal (str "nan") ++ [.closeGroup]) (c :: s) { m with inGroup := true } with
  | some m' => rfl
  | none =>
    cases matchHere (literal (str "inf") ++ [.closeGroup]) (c :: s) { m with inGroup := true } with
    | some m' => rfl
    | none => rfl

theorem firstNumber_decimal {d : Decimal} {rest : Bytes} (hsign : d.sign = none)
    (hwhole : d.whole ≠ []) (hexponent : d.exponent = none)
    (hends : ∀ c ∈ rest.head?, isDigit c = false ∧ (d.fraction = none → c ≠ 46)) (m : Match)
    : firstNumber (d.text ++ rest) m = some (taken m d.text) := by
  have hpoint : ∀ items c rest m, isDigit c = true →
      matchHere (.one (· = 46) :: items) (c :: rest) m = none := by
    intro items c rest m hc
    exact matchHere_one_of_ne (Decimal.isDigit_ne hc).2.2.1 rest m items
  have hdigits := d.isDigit_whole
  have hfraction := d.isDigit_fraction
  have htext : d.text = d.whole ++ d.fractionText := by
    simp [Decimal.text, Decimal.unsignedText, Decimal.exponentText, hsign, hexponent, signText]
  rw [htext, List.append_assoc]
  cases hw : d.whole with
  | nil => contradiction
  | cons b whole =>
    rw [hw, List.forall_mem_cons] at hdigits
    unfold firstNumber number Decimal.fractionText
    cases hf : d.fraction with
    | some digits =>
      rw [hf, Option.getD_some] at hfraction
      rw [List.findSome?_cons]
      simp only [List.cons_append, List.nil_append, Option.elim_some, matchHere, hdigits.1, ↓reduceIte]
      rw [manyThen_append hdigits.2 (by simp [isDigit]) (.inr (hpoint _)), matchHere,
        if_pos (by decide), matchHere,
        manyThen_append hfraction (fun c hc => (hends c hc).1) (.inl rfl)]
      simp [taken, matchHere, Match.pushAll_append]
    | none =>
      have hstops : matchHere [.one (· = 46), .many isDigit, .closeGroup] rest
          (({ m with inGroup := true }.push b).pushAll whole) = none := by
        cases rest with
        | nil => rfl
        | cons c rest => exact matchHere_one_of_ne ((hends c rfl).2 hf) rest _ _
      rw [List.findSome?_cons, List.findSome?_cons]
      simp only [List.cons_append, List.nil_append, Option.elim_none, matchHere, hdigits.1, ↓reduceIte]
      rw [manyThen_append hdigits.2 (fun c hc => (hends c hc).1) (.inr (hpoint _)), hstops]
      simp only
      rw [manyThen_append hdigits.2 (fun c hc => (hends c hc).1) (.inl rfl)]
      simp [taken]

theorem valueOf_decimal {d : Decimal} (hsign : d.sign = none) (hwhole : d.whole ≠ [])
    : valueOf d.text
        =
      .fin (if strtod.isOutOfRange d.magnitude then 0 else d.magnitude) := by
  have hhead : ∀ c ∈ d.text.head?, isDigit c = true := by
    intro c hc
    rw [Decimal.text, Decimal.unsignedText, hsign, signText, List.nil_append,
      List.head?_append_of_ne_nil _ hwhole] at hc
    exact d.isDigit_whole c (List.mem_of_mem_head? hc)
  have hnan : d.text ≠ str "nan" := by
    intro h
    have := hhead 110 (by rw [h]; rfl)
    contradiction
  have hinf : d.text ≠ str "inf" := by
    intro h
    have := hhead 105 (by rw [h]; rfl)
    contradiction
  unfold valueOf
  rw [if_neg (by simp [hnan, hinf]), d.stod_text]
  cases strtod.isOutOfRange d.magnitude with
  | true => rfl
  | false => simp [Decimal.value, hsign]

/-- Digits with a point or without, as far as they go. -/
theorem exists_decimal {s : Bytes} (hhead : ∃ c ∈ s.head?, isDigit c = true)
    : ∃ (d : Decimal) (rest : Bytes), s = d.text ++ rest ∧ d.sign = none ∧ d.whole ≠ []
        ∧ d.exponent = none
        ∧ ∀ c ∈ rest.head?, isDigit c = false ∧ (d.fraction = none → c ≠ 46) := by
  have hwhole : s.takeWhile isDigit ≠ [] := by
    obtain ⟨c, hc, hdigit⟩ := hhead
    obtain ⟨rest, rfl⟩ := List.head?_eq_some_iff.mp hc
    rw [List.takeWhile_cons_of_pos hdigit]
    simp
  by_cases hpoint : ∃ rest, s.dropWhile isDigit = 46 :: rest
  . obtain ⟨rest, hrest⟩ := hpoint
    refine ⟨{ sign := none, whole := s.takeWhile isDigit, fraction := some (rest.takeWhile isDigit),
              exponent := none, digits_ne_nil := by simp [hwhole],
              isDigit_whole := fun c => List.mem_takeWhile_imp,
              isDigit_fraction := fun c => List.mem_takeWhile_imp },
      rest.dropWhile isDigit, ?_, rfl, hwhole, rfl, ?_⟩
    . simp only [Decimal.text, Decimal.unsignedText, Decimal.fractionText, Decimal.exponentText,
        signText, Option.elim_some, Option.elim_none, List.nil_append, List.append_nil,
        List.append_assoc, List.cons_append, List.takeWhile_append_dropWhile]
      rw [← hrest, List.takeWhile_append_dropWhile]
    . intro c hc
      exact ⟨head_dropWhile rest c hc, by simp⟩
  . refine ⟨{ sign := none, whole := s.takeWhile isDigit, fraction := none, exponent := none,
              digits_ne_nil := by simp [hwhole], isDigit_whole := fun c => List.mem_takeWhile_imp,
              isDigit_fraction := by simp },
      s.dropWhile isDigit, ?_, rfl, hwhole, rfl, ?_⟩
    . simp [Decimal.text, Decimal.unsignedText, Decimal.fractionText, Decimal.exponentText, signText]
    . intro c hc
      refine ⟨head_dropWhile s c hc, ?_⟩
      rintro - rfl
      obtain ⟨rest, hrest⟩ := List.head?_eq_some_iff.mp hc
      exact hpoint ⟨rest, hrest⟩

theorem head_of_denotes {s : Bytes} {q : ℚ} (h : Denotes s q)
    : ∃ c ∈ s.head?, isDigit c = true ∨ c = 110 ∨ c = 105 := by
  cases h with
  | nan rest => exact ⟨110, rfl, .inr (.inl rfl)⟩
  | inf rest => exact ⟨105, rfl, .inr (.inr rfl)⟩
  | decimal d rest hsign hwhole =>
    obtain ⟨c, whole, hc⟩ := List.exists_cons_of_ne_nil hwhole
    refine ⟨c, ?_, .inl (d.isDigit_whole c (by simp [hc]))⟩
    simp [Decimal.text, Decimal.unsignedText, hsign, signText, hc]

theorem nonneg_of_denotes {s : Bytes} {q : ℚ} (h : Denotes s q) : 0 ≤ q := by
  cases h with
  | nan rest => rfl
  | inf rest => rfl
  | decimal d rest =>
    split
    . rfl
    . exact mul_nonneg (Nat.cast_nonneg _) (zpow_nonneg (by norm_num) _)

theorem firstNumber_of_denotes {s : Bytes} {q : ℚ} {m : Match} (hm : m.group = [])
    (h : Denotes s q)
    : ∃ m', firstNumber s m = some m' ∧ valueOf m'.group = .fin q := by
  cases h with
  | nan rest =>
    refine ⟨taken m (str "nan"), ?_, by simp [taken, hm, valueOf]⟩
    show firstNumber (110 :: (str "an" ++ rest)) m = _
    rw [matchHere_number_of_not_digit rfl, matchHere]
    show (matchHere (literal (str "nan") ++ [.closeGroup]) (str "nan" ++ rest) _).or _ = _
    rw [matchHere_literal]
    rfl
  | inf rest =>
    refine ⟨taken m (str "inf"), ?_, by simp [taken, hm, valueOf]⟩
    show firstNumber (105 :: (str "nf" ++ rest)) m = _
    rw [matchHere_number_of_not_digit rfl, matchHere, matchHere]
    show Option.or none (matchHere (literal (str "inf") ++ [.closeGroup]) (str "inf" ++ rest) _) = _
    rw [matchHere_literal]
    rfl
  | decimal d rest hsign hwhole hexponent hends =>
    refine ⟨taken m d.text, firstNumber_decimal hsign hwhole hexponent hends m, ?_⟩
    rw [← valueOf_decimal hsign hwhole]
    simp [taken, hm]

theorem denotes_of_firstNumber {s : Bytes} {m m' : Match} (hm : m.group = [])
    (h : firstNumber s m = some m')
    : ∃ q, Denotes s q ∧ valueOf m'.group = .fin q := by
  have hsome : ∃ q, Denotes s q := by
    cases s with
    | nil => contradiction
    | cons c s =>
      by_cases hc : isDigit c = true
      . obtain ⟨d, rest, heq, hsign, hwhole, hexponent, hends⟩ := exists_decimal
          (s := c :: s) ⟨c, rfl, hc⟩
        rw [heq]
        exact ⟨_, .decimal d rest hsign hwhole hexponent hends⟩
      . rw [matchHere_number_of_not_digit (by simpa using hc), Option.or_eq_some_iff, matchHere,
          matchHere] at h
        rcases h with h | ⟨-, h⟩
        . obtain ⟨rest, heq, -⟩ := exists_of_matchHere_literal h
          rw [heq]
          exact ⟨0, .nan rest⟩
        . obtain ⟨rest, heq, -⟩ := exists_of_matchHere_literal h
          rw [heq]
          exact ⟨0, .inf rest⟩
  obtain ⟨q, hq⟩ := hsome
  obtain ⟨m'', hm'', hvalue⟩ := firstNumber_of_denotes hm hq
  rw [h, Option.some.injEq] at hm''
  rw [← hm''] at hvalue
  exact ⟨q, hq, hvalue⟩

/-- A number begins with no blank. -/
theorem matchHere_number_of_isSpace {items : List Item} (hmem : items ∈ number) {c : UInt8}
    (hc : isSpace c = true) (rest : Bytes) (m : Match)
    : matchHere (.openGroup :: (items ++ [.closeGroup])) (c :: rest) m = none := by
  have hdigit := isDigit_of_isSpace hc
  have hletter : c ≠ 110 ∧ c ≠ 105 := by
    constructor
    . rintro rfl
      contradiction
    . rintro rfl
      contradiction
  simp only [number, List.mem_cons, List.not_mem_nil, or_false] at hmem
  rcases hmem with rfl | rfl | rfl | rfl
  . simp [matchHere, hdigit]
  . simp [matchHere, hdigit]
  . exact matchHere_one_of_ne hletter.1 rest _ _
  . exact matchHere_one_of_ne hletter.2 rest _ _

section

variable {isLabelled : Bool} {name s text : Bytes} {q : ℚ}

theorem firstMatch_of_front {run tail : Bytes} (hfront : Front isLabelled name s run tail)
    : firstMatch (pattern isLabelled name) s = firstNumber tail (Match.pushAll {} run) := by
  unfold firstMatch pattern samplePattern firstNumber
  rw [List.findSome?_map, ← List.head?_filterMap, ← List.head?_filterMap]
  congr 1
  apply List.filterMap_congr
  intro items hmem
  exact matchHere_front hfront fun c rest m hc => matchHere_number_of_isSpace hmem hc rest m

theorem exists_front_of_firstMatch {m : Match}
    (h : firstMatch (pattern isLabelled name) s = some m)
    : ∃ run tail, Front isLabelled name s run tail := by
  obtain ⟨items', hmem', hmatch⟩ := List.exists_of_findSome?_eq_some h
  obtain ⟨items, hmem, rfl⟩ := List.mem_map.mp hmem'
  exact exists_front_of_matchHere
    (fun c rest m hc => matchHere_number_of_isSpace hmem hc rest m) hmatch

theorem exists_match_of_reads (h : Reads isLabelled name s q)
    : ∃ m, firstMatch (pattern isLabelled name) s = some m ∧ valueOf m.group = .fin q := by
  obtain ⟨run, tail, hfront, hdenotes⟩ := h
  rw [firstMatch_of_front hfront]
  exact firstNumber_of_denotes (by simp) hdenotes

theorem exists_reads_of_match {m : Match} (h : firstMatch (pattern isLabelled name) s = some m)
    : ∃ q, Reads isLabelled name s q ∧ valueOf m.group = .fin q := by
  obtain ⟨run, tail, hfront⟩ := exists_front_of_firstMatch h
  rw [firstMatch_of_front hfront] at h
  obtain ⟨q, hdenotes, hvalue⟩ := denotes_of_firstNumber (by simp) h
  exact ⟨q, ⟨run, tail, hfront, hdenotes⟩, hvalue⟩

theorem firstMatch_eq_none_iff
    : firstMatch (pattern isLabelled name) s = none ↔ ∀ q, ¬ Reads isLabelled name s q := by
  constructor
  . intro hnone q hreads
    obtain ⟨m, hmatch, -⟩ := exists_match_of_reads hreads
    rw [hnone] at hmatch
    contradiction
  . intro hnot
    rw [Option.eq_none_iff_forall_ne_some]
    intro m hmatch
    obtain ⟨q, hreads, -⟩ := exists_reads_of_match hmatch
    exact hnot q hreads

theorem firstOf_iff {pos : Nat}
    : FirstOf isLabelled name text pos q
        ↔
      ∃ m, searchLines (pattern isLabelled name) text = some (pos, m) ∧ valueOf m.group = .fin q := by
  simp only [searchLines_eq_some_iff, firstMatch_eq_none_iff]
  constructor
  . rintro ⟨hpos, hstart, hreads, hfirst⟩
    obtain ⟨m, hmatch, hvalue⟩ := exists_match_of_reads hreads
    exact ⟨m, ⟨hpos, hstart, hmatch, hfirst⟩, hvalue⟩
  . rintro ⟨m, ⟨hpos, hstart, hmatch, hfirst⟩, hvalue⟩
    obtain ⟨q', hreads, hvalue'⟩ := exists_reads_of_match hmatch
    rw [hvalue, Double.fin.injEq] at hvalue'
    rw [← hvalue'] at hreads
    exact ⟨hpos, hstart, hreads, hfirst⟩

theorem exists_firstOf_of_search {pos : Nat} {m : Match}
    (h : searchLines (pattern isLabelled name) text = some (pos, m))
    : ∃ q, FirstOf isLabelled name text pos q := by
  obtain ⟨q, -, hvalue⟩ := exists_reads_of_match (searchLines_eq_some_iff.mp h).2.2.1
  exact ⟨q, firstOf_iff.mpr ⟨m, h, hvalue⟩⟩

theorem search_eq_none_iff
    : searchLines (pattern isLabelled name) text = none
        ↔
      ∀ pos q, ¬ FirstOf isLabelled name text pos q := by
  constructor
  . intro hnone pos q hfirst
    obtain ⟨m, hsearch, -⟩ := firstOf_iff.mp hfirst
    rw [hnone] at hsearch
    contradiction
  . intro hnot
    rw [Option.eq_none_iff_forall_ne_some]
    rintro ⟨pos, m⟩ hsearch
    obtain ⟨q, hfirst⟩ := exists_firstOf_of_search hsearch
    exact hnot pos q hfirst

theorem extractMetricValue_eq (metrics name : Bytes)
    : extractMetricValue metrics name
        =
      match searchLines (pattern true name) metrics with
      | some (_, m) => valueOf m.group
      | none =>
        match searchLines (pattern false name) metrics with
        | some (_, m) => valueOf m.group
        | none => .fin (-1) :=
  rfl

theorem extractMetricValue_of_firstReading {pos : Nat} (h : FirstReading name text pos q)
    : extractMetricValue text name = .fin q := by
  rw [extractMetricValue_eq]
  rcases h with hfirst | ⟨hnone, hfirst⟩
  . obtain ⟨m, hsearch, hvalue⟩ := firstOf_iff.mp hfirst
    rw [hsearch]
    exact hvalue
  . obtain ⟨m, hsearch, hvalue⟩ := firstOf_iff.mp hfirst
    rw [search_eq_none_iff.mpr hnone, hsearch]
    exact hvalue

theorem extractMetricValue_of_absent (h : ∀ pos q, ¬ FirstReading name text pos q)
    : extractMetricValue text name = .fin (-1) := by
  have hlabelled : ∀ pos q, ¬ FirstOf true name text pos q := by
    intro pos q hfirst
    exact h pos q (.inl hfirst)
  have hbare : ∀ pos q, ¬ FirstOf false name text pos q := by
    intro pos q hfirst
    exact h pos q (.inr ⟨hlabelled, hfirst⟩)
  rw [extractMetricValue_eq, search_eq_none_iff.mpr hlabelled, search_eq_none_iff.mpr hbare]

theorem FirstOf.pos_unique {pos pos' : Nat} {q' : ℚ} (h : FirstOf isLabelled name text pos q)
    (h' : FirstOf isLabelled name text pos' q')
    : pos = pos' := by
  obtain ⟨m, hsearch, -⟩ := firstOf_iff.mp h
  obtain ⟨m', hsearch', -⟩ := firstOf_iff.mp h'
  rw [hsearch, Option.some.injEq, Prod.mk.injEq] at hsearch'
  exact hsearch'.1

theorem FirstReading.pos_unique {pos pos' : Nat} {q' : ℚ} (h : FirstReading name text pos q)
    (h' : FirstReading name text pos' q')
    : pos = pos' := by
  rcases h with h | ⟨hnone, h⟩
  . rcases h' with h' | ⟨hnone', -⟩
    . exact h.pos_unique h'
    . exact absurd h (hnone' pos q)
  . rcases h' with h' | ⟨-, h'⟩
    . exact absurd h' (hnone pos' q')
    . exact h.pos_unique h'

theorem FirstReading.exists_reads {pos : Nat} (h : FirstReading name text pos q)
    : IsLineStart isLineTerminator text pos ∧ ∃ kind, Reads kind name (text.drop pos) q := by
  rcases h with h | ⟨-, h⟩
  . exact ⟨h.isLineStart, true, h.reads⟩
  . exact ⟨h.isLineStart, false, h.reads⟩

/-- A sample at the start of a line is read, or another one is. -/
theorem exists_firstReading {pos : Nat} (hpos : pos ≤ text.length)
    (hstart : IsLineStart isLineTerminator text pos) (h : Reads isLabelled name (text.drop pos) q)
    : ∃ pos' q', FirstReading name text pos' q' := by
  by_cases hlabelled : ∃ pos' q', FirstOf true name text pos' q'
  . obtain ⟨pos', q', hfirst⟩ := hlabelled
    exact ⟨pos', q', .inl hfirst⟩
  . have hsome : searchLines (pattern isLabelled name) text ≠ none := by
      intro hnone
      exact firstMatch_eq_none_iff.mp (searchLines_eq_none_iff.mp hnone pos hpos hstart) q h
    obtain ⟨⟨pos', m⟩, hsearch⟩ := Option.ne_none_iff_exists'.mp hsome
    obtain ⟨q', hfirst⟩ := exists_firstOf_of_search hsearch
    cases isLabelled with
    | true => exact ⟨pos', q', .inl hfirst⟩
    | false => exact ⟨pos', q', .inr ⟨by simpa using hlabelled, hfirst⟩⟩

end

end PrometheusPlugin
end NetmonPlugins

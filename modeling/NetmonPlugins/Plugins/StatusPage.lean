import NetmonPlugins.Cxx.Digits
import NetmonPlugins.Cxx.Regex.Lemmas
import NetmonPlugins.Cxx.Strtod

/-!
This module contains the search that the checks of status pages share: a label, a colon and a
numeral, with blanks around the colon. The labels have no special characters.
-/

namespace NetmonPlugins

open Regex

/-- What `icase` makes of a text. -/
def literalIcase (text : Bytes) : List Item := text.map fun c => .one (toLower · = toLower c)

/-- `label + "\\s*:\\s*([0-9]+)"` -/
def metricItems (label : Bytes) : List Item :=
  literalIcase label
    ++ [.many isSpace, .one (· = 58), .many isSpace, .openGroup, .one isDigit, .many isDigit,
        .closeGroup]

def extractMetric (html label : Bytes) : Int :=
  match search (metricItems label) html with
  | none => -1
  | some (_, m) =>
    match stoi m.group with
    | .ok value => value
    | .error _ => -1

namespace StatusPage

/-- `if (value >= 0) perfdata << name << "=" << value` -/
def metric (name : Bytes) (value : Int) : Bytes :=
  if value ≥ 0 then name ++ str "=" ++ intDec value else []

/-- A field that others follow. -/
def spaced (field : Bytes) : Bytes := if field = [] then [] else field ++ str " "

structure Reading (label text digits : Bytes) where
  name : Bytes
  blanks : Bytes
  blanks' : Bytes
  rest : Bytes
  text_eq : text = name ++ (blanks ++ 58 :: (blanks' ++ (digits ++ rest)))
  name_eq : name.map toLower = label.map toLower
  isSpace_blanks : ∀ c ∈ blanks, isSpace c = true
  isSpace_blanks' : ∀ c ∈ blanks', isSpace c = true
  digits_ne_nil : digits ≠ []
  isDigit_digits : ∀ c ∈ digits, isDigit c = true
  isDigit_rest : ∀ c ∈ rest.head?, isDigit c = false

/-- The text begins with the label, the colon and the numeral. -/
def Reads (label text digits : Bytes) : Prop := Nonempty (Reading label text digits)

/-- The first place of the text with the label, the colon and a numeral. -/
structure FirstReading (label text : Bytes) (pos : Nat) (digits : Bytes) : Prop where
  pos_le : pos ≤ text.length
  reads : Reads label (text.drop pos) digits
  first : ∀ j, j < pos → ∀ digits', ¬ Reads label (text.drop j) digits'

theorem fitsHere_icase {label s : Bytes}
    : fitsHere (label.map fun c => (toLower · = toLower c)) s = true
        ↔
      ∃ name rest, s = name ++ rest ∧ name.map toLower = label.map toLower := by
  induction label generalizing s with
  | nil =>
    simp only [List.map_nil, fitsHere, List.map_eq_nil_iff, true_iff]
    exact ⟨[], s, rfl, rfl⟩
  | cons c label ih =>
    cases s with
    | nil =>
      simp only [List.map_cons, fitsHere, Bool.false_eq_true, false_iff]
      rintro ⟨name, rest, hs, hname⟩
      rw [(List.append_eq_nil_iff.mp hs.symm).1] at hname
      contradiction
    | cons b s =>
      rw [List.map_cons, fitsHere, Bool.and_eq_true, ih, decide_eq_true_eq]
      constructor
      . rintro ⟨hb, name, rest, rfl, hname⟩
        exact ⟨b :: name, rest, rfl, by rw [List.map_cons, List.map_cons, hb, hname]⟩
      . rintro ⟨name, rest, hs, hname⟩
        cases name with
        | nil => contradiction
        | cons b' name =>
          rw [List.cons_append, List.cons.injEq] at hs
          rw [List.map_cons, List.map_cons, List.cons.injEq] at hname
          rw [hs.1]
          exact ⟨hname.1, name, rest, hs.2, hname.2⟩

def valueItems : List Item :=
  [.many isSpace, .one (· = 58), .many isSpace, .openGroup, .one isDigit, .many isDigit, .closeGroup]

theorem metricItems_eq (label : Bytes)
    : metricItems label
        =
      (label.map fun c => (toLower · = toLower c : UInt8 → Bool)).map .one ++ valueItems := by
  unfold metricItems literalIcase valueItems
  rw [List.map_map]
  rfl

theorem matchHere_label {label name s : Bytes} (hname : name.map toLower = label.map toLower)
    : matchHere (metricItems label) (name ++ s) {}
        =
      matchHere valueItems s (Match.pushAll {} name) := by
  have hlength : label.length = name.length := by
    have := congrArg List.length hname
    simpa using this.symm
  rw [metricItems_eq, matchHere_ones, if_pos (fitsHere_icase.mpr ⟨name, s, rfl, hname⟩),
    List.length_map, hlength, List.drop_left, List.take_left]

theorem exists_of_matchHere_label {label s : Bytes} {m : Match}
    (h : matchHere (metricItems label) s {} = some m)
    : ∃ name rest, s = name ++ rest ∧ name.map toLower = label.map toLower := by
  rw [← fitsHere_icase]
  rw [metricItems_eq, matchHere_ones] at h
  by_contra hnot
  rw [if_neg hnot] at h
  contradiction

theorem takeWhile_digits {label s digits : Bytes} (r : Reading label s digits)
    : (digits ++ r.rest).takeWhile isDigit = digits :=
  takeWhile_append_of_head r.isDigit_digits r.isDigit_rest

/-- A blank is no colon and no digit, so each part of the pattern takes all it can. -/
theorem matchHere_of_reading {label s digits : Bytes} (r : Reading label s digits)
    : ∃ m, matchHere (metricItems label) s {} = some m ∧ m.group = digits := by
  have hcolon : ∀ c rest m, isSpace c = true →
      matchHere [.one (· = 58), .many isSpace, .openGroup, .one isDigit, .many isDigit, .closeGroup]
        (c :: rest) m = none := by
    intro c rest m hc
    apply matchHere_one_of_ne
    rintro rfl
    revert hc
    decide
  have hhead : ∀ c ∈ (digits ++ r.rest).head?, isSpace c = false := by
    intro c hc
    rw [List.head?_append_of_ne_nil _ r.digits_ne_nil] at hc
    exact isSpace_of_isDigit (r.isDigit_digits c (List.mem_of_mem_head? hc))
  have hrun : (digits ++ r.rest).takeWhile isDigit ≠ [] := by
    rw [takeWhile_digits r]
    exact r.digits_ne_nil
  rw [r.text_eq, matchHere_label r.name_eq]
  unfold valueItems
  rw [matchHere, manyThen_append r.isSpace_blanks (by simp [isSpace]) (.inr hcolon), matchHere]
  simp only [decide_true, ↓reduceIte]
  rw [matchHere, manyThen_append r.isSpace_blanks' hhead]
  . rw [matchHere_run hrun]
    refine ⟨_, rfl, ?_⟩
    rw [takeWhile_digits r]
    simp [Match.push]
  . left
    rw [matchHere_run hrun]
    rfl

theorem reading_of_matchHere {label s : Bytes} {m : Match}
    (h : matchHere (metricItems label) s {} = some m)
    : Reads label s m.group := by
  obtain ⟨name, rest, rfl, hname⟩ := exists_of_matchHere_label h
  rw [matchHere_label hname] at h
  unfold valueItems at h
  rw [matchHere] at h
  obtain ⟨blanks, rest', rfl, hblanks, h⟩ := exists_of_manyThen h
  cases rest' with
  | nil => contradiction
  | cons c rest' =>
    rw [matchHere] at h
    split at h
    . next hc =>
      rw [decide_eq_true_eq] at hc
      rw [matchHere] at h
      obtain ⟨blanks', rest, rfl, hblanks', h⟩ := exists_of_manyThen h
      have hgroup := group_of_matchHere_run (by simp [Match.push]) h
      refine ⟨name, blanks, blanks', rest.dropWhile isDigit, ?_, hname, hblanks, hblanks', ?_, ?_, ?_⟩
      . rw [hgroup, List.takeWhile_append_dropWhile, hc]
      . intro hnil
        rw [hgroup] at hnil
        rw [matchHere_run_of_nil hnil] at h
        contradiction
      . intro b hb
        rw [hgroup] at hb
        exact List.mem_takeWhile_imp hb
      . exact head_dropWhile rest
    . contradiction

theorem reads_iff {label s digits : Bytes}
    : Reads label s digits
        ↔
      ∃ m, matchHere (metricItems label) s {} = some m ∧ m.group = digits := by
  constructor
  . rintro ⟨r⟩
    exact matchHere_of_reading r
  . rintro ⟨m, hmatch, rfl⟩
    exact reading_of_matchHere hmatch

theorem matchHere_eq_none_iff {label s : Bytes}
    : matchHere (metricItems label) s {} = none ↔ ∀ digits, ¬ Reads label s digits := by
  constructor
  . intro hnone digits hreads
    obtain ⟨m, hmatch, -⟩ := reads_iff.mp hreads
    rw [hnone] at hmatch
    contradiction
  . intro hnot
    rw [Option.eq_none_iff_forall_ne_some]
    intro m hmatch
    exact hnot m.group (reading_of_matchHere hmatch)

theorem firstReading_iff {label text digits : Bytes} {pos : Nat}
    : FirstReading label text pos digits
        ↔
      ∃ m, search (metricItems label) text = some (pos, m) ∧ m.group = digits := by
  simp only [search_eq_some_iff, matchHere_eq_none_iff]
  constructor
  . rintro ⟨hpos, hreads, hfirst⟩
    obtain ⟨m, hmatch, hgroup⟩ := reads_iff.mp hreads
    exact ⟨m, ⟨hpos, hmatch, hfirst⟩, hgroup⟩
  . rintro ⟨m, ⟨hpos, hmatch, hfirst⟩, hgroup⟩
    exact ⟨hpos, reads_iff.mpr ⟨m, hmatch, hgroup⟩, hfirst⟩

theorem Reads.isDigit {label s digits : Bytes} (h : Reads label s digits)
    : digits ≠ [] ∧ ∀ c ∈ digits, isDigit c = true := by
  obtain ⟨r⟩ := h
  exact ⟨r.digits_ne_nil, r.isDigit_digits⟩

/-- A counter beyond `int` reads as an absent one. -/
theorem extractMetric_of_firstReading {label text digits : Bytes} {pos : Nat}
    (h : FirstReading label text pos digits)
    : extractMetric text label
        =
      if digitsValue digits < 2 ^ 31 then (digitsValue digits : Int) else -1 := by
  obtain ⟨hne, hdigits⟩ := h.reads.isDigit
  obtain ⟨m, hsearch, rfl⟩ := firstReading_iff.mp h
  have hstoi := stoInteger_append (str "stoi") (-2 ^ 31) (2 ^ 31 - 1) m.group [] hne hdigits (by simp)
  rw [List.append_nil] at hstoi
  unfold extractMetric stoi
  rw [hsearch]
  simp only
  rw [hstoi]
  split
  . next value hvalue =>
    split at hvalue
    . next hrange =>
      rw [Except.ok.injEq] at hvalue
      rw [if_pos (by omega), hvalue]
    . contradiction
  . next hvalue =>
    split at hvalue
    . contradiction
    . next hrange =>
      rw [if_neg (by omega)]

theorem extractMetric_of_absent {label text : Bytes}
    (h : ∀ pos digits, ¬ FirstReading label text pos digits)
    : extractMetric text label = -1 := by
  unfold extractMetric
  cases hsearch : search (metricItems label) text with
  | none => rfl
  | some found => exact absurd (firstReading_iff.mpr ⟨found.2, hsearch, rfl⟩) (h found.1 _)

end StatusPage
end NetmonPlugins

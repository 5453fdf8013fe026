import NetmonPlugins.Common.JsonUtils.Nested
import NetmonPlugins.Cxx.Decimal

/-!
This module contains what the searches of the JSON lookups find in a text that may be no JSON: those
of the text lookup, and the second ones of the typed lookups, which are made where the text lookup
finds nothing.
-/

namespace NetmonPlugins

open Regex

def Decimal.leadingFraction : Bytes → Option Bytes
  | 46 :: rest => some (rest.takeWhile isDigit)
  | _ => none

theorem Decimal.isDigit_leadingFraction (text : Bytes)
    : ∀ c ∈ (leadingFraction text).getD [], isDigit c = true := by
  intro c hc
  unfold leadingFraction at hc
  split at hc
  . exact List.mem_takeWhile_imp hc
  . contradiction

/-- The unsigned numeral without an exponent that a text begins with. -/
def Decimal.leading (text : Bytes) : Option Decimal :=
  if h : text.takeWhile isDigit = [] then
    none
  else
    some {
      sign := none
      whole := text.takeWhile isDigit
      fraction := leadingFraction (text.dropWhile isDigit)
      exponent := none
      digits_ne_nil := by simp [h]
      isDigit_whole := fun _ hc => List.mem_takeWhile_imp hc
      isDigit_fraction := isDigit_leadingFraction _ }

def leadingWord (text : Bytes) : Option Bool :=
  if (text.take 4).map toLower = str "true" then some true
  else if (text.take 5).map toLower = str "false" then some false
  else none

def exactly (key : Bytes) : List (UInt8 → Bool) := key.map fun c b => b = c

/-- Of a dot every byte of a line is taken. -/
def ignoringCase (key : Bytes) : List (UInt8 → Bool) :=
  key.map fun c b => if c = 46 then b ≠ 10 && b ≠ 13 else toLower b = toLower c

def isQuote (b : UInt8) : Bool := b = 34

def quotedClasses (classes : List (UInt8 → Bool)) : List (UInt8 → Bool) :=
  isQuote :: (classes ++ [isQuote])

/-- What stands behind a quoted name and a colon, if the text begins with these. -/
def behindColon (classes : List (UInt8 → Bool)) (text : Bytes) : Option Bytes :=
  if fitsHere (quotedClasses classes) text then
    match (text.drop (quotedClasses classes).length).dropWhile isSpace with
    | 58 :: rest => some rest
    | _ => none
  else
    none

def behind (classes : List (UInt8 → Bool)) (text : Bytes) : Option Bytes :=
  (behindColon classes text).map fun rest => rest.dropWhile isSpace

/-- What is read at the first place where there is something to read. -/
def firstPlace {α : Type _} (read : Bytes → Option α) : Bytes → Option α
  | [] => none
  | c :: text => (read (c :: text)).or (firstPlace read text)

def firstBehind {α : Type _} (classes : List (UInt8 → Bool)) (read : Bytes → Option α)
    : Bytes → Option α :=
  firstPlace fun text => (behind classes text).bind read

section

variable {classes : List (UInt8 → Bool)} {tail : List Item}

theorem firstBehind_cons {α : Type _} (read : Bytes → Option α) (c : UInt8) (text : Bytes)
    : firstBehind classes read (c :: text)
        =
      ((behind classes (c :: text)).bind read).or (firstBehind classes read text) :=
  rfl

def namePattern (classes : List (UInt8 → Bool)) (tail : List Item) : List Item :=
  (quotedClasses classes).map .one ++ (colon ++ tail)

theorem matchHere_colonThen (s : Bytes) (m : Match)
    : matchHere (colon ++ tail) s m
        =
      match s.dropWhile isSpace with
      | 58 :: rest => matchHere (.many isSpace :: tail) rest (m.pushAll (s.takeWhile isSpace ++ [58]))
      | _ => none := by
  show manyThen isSpace (matchHere (.one (· = 58) :: (.many isSpace :: tail))) s m = _
  rw [manyThen_eq (.inr (not_isSpace_literal (by decide) _))]
  split
  . next rest hrest =>
    rw [hrest, Match.pushAll_append]
    rfl
  . next hnot =>
    cases hrest : s.dropWhile isSpace with
    | nil => rfl
    | cons c rest =>
      apply matchHere_one_of_ne
      rintro rfl
      exact hnot rest hrest

theorem matchHere_of_behindColon_none {s : Bytes} (h : behindColon classes s = none)
    : matchHere (namePattern classes tail) s {} = none := by
  unfold namePattern
  rw [matchHere_ones, matchHere_colonThen]
  unfold behindColon at h
  split at h
  . next hfits =>
    rw [if_pos hfits]
    split
    . next rest hrest =>
      rw [hrest] at h
      contradiction
    . rfl
  . next hfits => rw [if_neg hfits]

theorem matchHere_of_behindColon_some (tail : List Item) {s rest : Bytes}
    (h : behindColon classes s = some rest)
    : ∃ text, s = text ++ rest
        ∧ matchHere (namePattern classes tail) s {}
          = matchHere (.many isSpace :: tail) rest (Match.pushAll {} text) := by
  unfold namePattern
  rw [matchHere_ones, matchHere_colonThen]
  unfold behindColon at h
  split at h
  . next hfits =>
    rw [if_pos hfits]
    split at h
    . next rest' hrest =>
      rw [Option.some.injEq] at h
      refine ⟨s.take (quotedClasses classes).length
        ++ ((s.drop (quotedClasses classes).length).takeWhile isSpace ++ [58]), ?_, ?_⟩
      . rw [← h]
        simp only [List.append_assoc, List.singleton_append]
        rw [← hrest, List.takeWhile_append_dropWhile, List.take_append_drop]
      . rw [← h, Match.pushAll_append, Match.pushAll_append, Match.pushAll_append]
    . contradiction
  . contradiction

theorem matchHere_of_behind_none {s : Bytes} (h : behind classes s = none)
    : matchHere (namePattern classes tail) s {} = none :=
  matchHere_of_behindColon_none (Option.map_eq_none_iff.mp h)

theorem matchHere_of_behind_some
    (htail : ∀ c rest m, isSpace c = true → matchHere tail (c :: rest) m = none) {s rest : Bytes}
    (h : behind classes s = some rest)
    : ∃ text, s = text ++ rest
        ∧ matchHere (namePattern classes tail) s {} = matchHere tail rest (Match.pushAll {} text) := by
  obtain ⟨rest', hcolon, rfl⟩ := Option.map_eq_some_iff.mp h
  obtain ⟨text, rfl, hmatch⟩ := matchHere_of_behindColon_some tail hcolon
  refine ⟨text ++ rest'.takeWhile isSpace, ?_, ?_⟩
  . rw [List.append_assoc, List.takeWhile_append_dropWhile]
  . rw [hmatch, Match.pushAll_append]
    exact manyThen_eq (.inr htail)

theorem searchFrom_namePattern {α : Type _} {read : Bytes → Option α}
    (classes : List (UInt8 → Bool))
    (htail : ∀ c rest m, isSpace c = true → matchHere tail (c :: rest) m = none)
    (hread : ∀ rest m, (matchHere tail rest m).isSome = (read rest).isSome) (s : Bytes) (pos : Nat)
    : (searchFrom (namePattern classes tail) s pos = none ∧ firstBehind classes read s = none)
        ∨
      ∃ before text rest m, s = before ++ (text ++ rest)
        ∧ searchFrom (namePattern classes tail) s pos = some (pos + before.length, m)
        ∧ matchHere tail rest (Match.pushAll {} text) = some m
        ∧ firstBehind classes read s = read rest := by
  induction s generalizing pos with
  | nil => exact .inl ⟨rfl, rfl⟩
  | cons c s ih =>
    have hskip : matchHere (namePattern classes tail) (c :: s) {} = none
        → (behind classes (c :: s)).bind read = none
        → (searchFrom (namePattern classes tail) (c :: s) pos = none
            ∧ firstBehind classes read (c :: s) = none)
          ∨ ∃ before text rest m, c :: s = before ++ (text ++ rest)
            ∧ searchFrom (namePattern classes tail) (c :: s) pos = some (pos + before.length, m)
            ∧ matchHere tail rest (Match.pushAll {} text) = some m
            ∧ firstBehind classes read (c :: s) = read rest := by
      intro hnone hnothing
      rw [searchFrom_cons_of_none hnone, firstBehind_cons, hnothing, Option.none_or]
      obtain hend | ⟨before, text, rest, m, hs, hsearch, hmatch, hfirst⟩ := ih (pos + 1)
      . exact .inl hend
      . refine .inr ⟨c :: before, text, rest, m, by rw [hs]; rfl, ?_, hmatch, hfirst⟩
        rw [hsearch, List.length_cons]
        congr 2
        omega
    cases hbehind : behind classes (c :: s) with
    | none =>
      apply hskip (matchHere_of_behind_none hbehind)
      rw [hbehind]
      rfl
    | some rest =>
      obtain ⟨text, hs, hmatch⟩ := matchHere_of_behind_some htail hbehind
      have hsome := hread rest (Match.pushAll {} text)
      cases hvalue : read rest with
      | none =>
        rw [hvalue, Option.isSome_none, Option.isSome_eq_false_iff, Option.isNone_iff_eq_none,
          ← hmatch] at hsome
        apply hskip hsome
        rw [hbehind]
        exact hvalue
      | some value =>
        rw [hvalue, Option.isSome_some, Option.isSome_iff_exists] at hsome
        obtain ⟨m, hm⟩ := hsome
        refine .inr ⟨[], text, rest, m, hs, ?_, hm, ?_⟩
        . rw [searchFrom, hmatch, hm]
          rfl
        . rw [firstBehind_cons, hbehind, Option.bind_some, hvalue, Option.some_or]

end

/-- The key as one name: of a dot every byte of a line is taken. -/
def asOneName (key : Bytes) : List (UInt8 → Bool) :=
  key.map fun c b => if c = 46 then b ≠ 10 && b ≠ 13 else b = c

/-- The bytes between two quotes, if there are any. -/
def quotedText : Bytes → Option Bytes
  | 34 :: rest =>
    if 34 ∈ rest ∧ rest.takeWhile (· ≠ 34) ≠ [] then some (rest.takeWhile (· ≠ 34)) else none
  | _ => none

/-- What stands in front of a comma or a closing brace, and of blanks alone the last one. -/
def bareRun (rest : Bytes) : Option Bytes :=
  let run := rest.takeWhile isValueByte
  run.getLast?.map fun last => if run.all isSpace then [last] else run.dropWhile isSpace

/-- The value of the first member of this name that is a string, or else of the first one. -/
def memberText (json key : Bytes) : Bytes :=
  match firstPlace (fun text => (behind (asOneName key) text).bind quotedText) json with
  | some value => value
  | none =>
    match firstPlace (fun text => (behindColon (asOneName key) text).bind bareRun) json with
    | some value => trim value
    | none => []

section

variable {rest : Bytes} {m : Match}

theorem matchHere_quotedGroup_of_nil (h : rest.takeWhile (· ≠ 34) = []) (m : Match)
    : matchHere quotedGroup rest m = none := by
  cases rest with
  | nil => rfl
  | cons c rest =>
    show (if decide (c ≠ 34) then _ else none) = _
    rw [if_neg]
    intro hc
    have hrun : (c :: rest).takeWhile (· ≠ 34) = c :: rest.takeWhile (· ≠ 34) :=
      List.takeWhile_cons_of_pos hc
    rw [hrun] at h
    contradiction

theorem group_matchHere_quotedTail (hm : m.group = []) (hout : m.inGroup = false)
    : (matchHere quotedTail rest m).map Match.group = quotedText rest := by
  cases rest with
  | nil => rfl
  | cons c rest =>
    by_cases hc : c = 34
    . have hopen : matchHere quotedTail (c :: rest) m = matchHere quotedGroup rest (m.push 34) := by
        rw [hc]
        rfl
      rw [hopen, hc, quotedText]
      by_cases hquote : 34 ∈ rest
      . by_cases hnil : rest.takeWhile (· ≠ 34) = []
        . rw [matchHere_quotedGroup_of_nil hnil, if_neg fun h => h.2 hnil]
          rfl
        . rw [matchHere_quotedGroup hquote hnil, if_pos ⟨hquote, hnil⟩]
          simp [Match.push, hm, hout]
      . rw [matchHere_quotedGroup_of_notMem hquote, if_neg fun h => hquote h.1]
        rfl
    . have hopen : matchHere quotedTail (c :: rest) m = none :=
        matchHere_one_of_ne hc rest m quotedGroup
      rw [hopen, quotedText]
      . rfl
      . intro _ heq
        exact hc (List.cons.inj heq).1

theorem isValueByte_of_isSpace {c : UInt8} (h : isSpace c = true) : isValueByte c = true := by
  apply isValueByte_of_ne
  . rintro rfl
    contradiction
  . rintro rfl
    contradiction

theorem bareRun_eq_none_iff (rest : Bytes)
    : bareRun rest = none ↔ rest.takeWhile isValueByte = [] := by
  unfold bareRun
  rw [Option.map_eq_none_iff, List.getLast?_eq_none_iff]

theorem bareRun_cons_of_isSpace {c : UInt8} (hc : isSpace c = true) (rest : Bytes)
    : bareRun (c :: rest) = (bareRun rest).or (some [c]) := by
  unfold bareRun
  rw [List.takeWhile_cons_of_pos (isValueByte_of_isSpace hc)]
  cases hrun : rest.takeWhile isValueByte with
  | nil => simp [hc]
  | cons b run =>
    dsimp only
    rw [List.getLast?_cons_cons, List.all_cons, hc, Bool.true_and, List.dropWhile_cons_of_pos hc]
    simp [List.getLast?_cons]

theorem bareRun_of_not_isSpace {c : UInt8} (hc : isSpace c = false) (rest : Bytes)
    (hvalue : isValueByte c = true)
    : bareRun (c :: rest) = some ((c :: rest).takeWhile isValueByte) := by
  unfold bareRun
  rw [List.takeWhile_cons_of_pos hvalue]
  simp [hc, List.getLast?_cons]

/-- The blanks are taken first, and the last one is given back where no value follows them. -/
theorem group_matchHere_bareTail (hm : m.group = []) (hout : m.inGroup = false)
    : (matchHere (.many isSpace :: bareTail) rest m).map Match.group = bareRun rest := by
  show (manyThen isSpace (matchHere bareTail) rest m).map Match.group = _
  induction rest generalizing m with
  | nil => rfl
  | cons c rest ih =>
    have hrun : isValueByte c = true
        → (matchHere bareTail (c :: rest) m).map Match.group
          = some ((c :: rest).takeWhile isValueByte) := by
      intro hc
      unfold bareTail
      rw [matchHere_run]
      . simp [hm]
      . rw [List.takeWhile_cons_of_pos hc]
        exact List.cons_ne_nil _ _
    rw [manyThen]
    split
    . next hc =>
      have hpush : (m.push c).group = [] := by simp [Match.push, hm, hout]
      have hrest := ih hpush hout
      rw [bareRun_cons_of_isSpace hc, ← hrest]
      cases hmany : manyThen isSpace (matchHere bareTail) rest (m.push c) with
      | none =>
        rw [hmany] at hrest
        have hnil := (bareRun_eq_none_iff rest).mp hrest.symm
        rw [Option.none_or, hrun (isValueByte_of_isSpace hc),
          List.takeWhile_cons_of_pos (isValueByte_of_isSpace hc), hnil]
        rfl
      | some m' => rfl
    . next hc =>
      rw [Bool.not_eq_true] at hc
      by_cases hvalue : isValueByte c = true
      . rw [hrun hvalue, bareRun_of_not_isSpace hc rest hvalue]
      . have hnil : (c :: rest).takeWhile isValueByte = [] := List.takeWhile_cons_of_neg hvalue
        unfold bareTail bareRun
        rw [matchHere_run_of_nil hnil, hnil]
        rfl

theorem map_searchFrom {items : List Item} {read : Bytes → Option Bytes}
    (hread : ∀ s, (matchHere items s {}).map Match.group = read s) (hnil : read [] = none)
    (s : Bytes) (pos : Nat)
    : (searchFrom items s pos).map (fun found => found.2.group) = firstPlace read s := by
  induction s generalizing pos with
  | nil =>
    have hnone := hread []
    rw [hnil, Option.map_eq_none_iff] at hnone
    rw [searchFrom, hnone]
    rfl
  | cons c s ih =>
    rw [searchFrom, firstPlace, ← hread]
    cases matchHere items (c :: s) {} with
    | none => exact ih (pos + 1)
    | some m => rfl

/-- A key that is pasted between two quotes, with a class of bytes for each of its bytes. -/
theorem pasted_append (key : Bytes) (fits : UInt8 → UInt8 → Bool) (tail : List Item)
    : literal (str "\"")
          ++ key.map (fun c => if c = 46 then .one (fun b => b ≠ 10 && b ≠ 13) else .one (fits c))
          ++ literal (str "\"") ++ colon ++ tail
        =
      namePattern (key.map fun c b => if c = 46 then b ≠ 10 && b ≠ 13 else fits c b) tail := by
  have hkey : key.map (fun c => if c = 46 then Item.one (fun b => b ≠ 10 && b ≠ 13)
        else .one (fits c))
      =
      (key.map fun c b => if c = 46 then b ≠ 10 && b ≠ 13 else fits c b).map .one := by
    rw [List.map_map]
    apply List.map_congr_left
    intro c _
    by_cases hc : c = 46
    . simp [hc]
    . simp [hc]
  rw [hkey]
  unfold namePattern quotedClasses
  rw [List.map_cons, List.map_append]
  simp only [List.append_assoc, List.cons_append]
  rfl

theorem memberPattern_eq_namePattern (key : Bytes) (tail : List Item)
    : memberPattern key tail = namePattern (asOneName key) tail :=
  (pasted_append key (fun c b => b = c) tail).trans (by simp [asOneName])

theorem map_search_quotedTail (json key : Bytes)
    : (search (memberPattern key quotedTail) json).map (fun found => found.2.group)
        =
      firstPlace (fun text => (behind (asOneName key) text).bind quotedText) json := by
  rw [memberPattern_eq_namePattern]
  apply map_searchFrom _ rfl
  intro s
  cases hbehind : behind (asOneName key) s with
  | none =>
    rw [matchHere_of_behind_none hbehind]
    rfl
  | some rest =>
    have hspace : ∀ c rest m, isSpace c = true → matchHere quotedTail (c :: rest) m = none :=
      not_isSpace_literal (by decide) _
    obtain ⟨text, _, hmatch⟩ := matchHere_of_behind_some hspace hbehind
    rw [hmatch, group_matchHere_quotedTail (by simp) (by simp)]
    rfl

theorem map_search_bareTail (json key : Bytes)
    : (search (memberPattern key bareTail) json).map (fun found => found.2.group)
        =
      firstPlace (fun text => (behindColon (asOneName key) text).bind bareRun) json := by
  rw [memberPattern_eq_namePattern]
  apply map_searchFrom _ rfl
  intro s
  cases hbehind : behindColon (asOneName key) s with
  | none =>
    rw [matchHere_of_behindColon_none hbehind]
    rfl
  | some rest =>
    obtain ⟨text, _, hmatch⟩ := matchHere_of_behindColon_some bareTail hbehind
    rw [hmatch, group_matchHere_bareTail (by simp) (by simp)]
    rfl

/-- The text lookup takes a path for the name of one member. -/
theorem extractJsonValue_eq_memberText (json key : Bytes)
    : extractJsonValue json key = memberText json key := by
  rw [extractJsonValue_eq]
  unfold memberText
  rw [← map_search_quotedTail, ← map_search_bareTail]
  cases search (memberPattern key quotedTail) json with
  | none =>
    cases search (memberPattern key bareTail) json with
    | none => rfl
    | some found => rfl
  | some found => rfl

end

section

variable {key : Bytes}

theorem quotedKey_append (hkey : (46 : UInt8) ∉ key) (tail : List Item)
    : quotedKey key ++ colon ++ tail = namePattern (exactly key) tail := by
  have hname : asOneName key = exactly key := by
    apply List.map_congr_left
    intro c hc
    simp [ne_of_mem_of_not_mem hc hkey]
  rw [← hname]
  exact memberPattern_eq_namePattern key tail

theorem notMem_leafKey (key : Bytes) : (46 : UInt8) ∉ leafKey key := by
  intro h
  unfold leafKey at h
  rw [List.mem_reverse] at h
  have hdot := List.mem_takeWhile_imp h
  simp at hdot

def digitTail : List Item := [.openGroup, .one isDigit, .many isDigit, .closeGroup]

theorem isSome_leading (rest : Bytes) (m : Match)
    : (matchHere digitTail rest m).isSome = (Decimal.leading rest).isSome := by
  unfold digitTail Decimal.leading
  by_cases h : rest.takeWhile isDigit = []
  . rw [matchHere_run_of_nil h, dif_pos h]
    rfl
  . rw [matchHere_run h, dif_neg h]
    rfl

theorem matchHere_digitTail_space (c : UInt8) (rest : Bytes) (m : Match) (hc : isSpace c = true)
    : matchHere digitTail (c :: rest) m = none := by
  apply matchHere_run_of_nil
  have hdigit : isDigit c = false := by
    unfold isSpace at hc
    unfold isDigit
    grind
  simp [hdigit]

theorem fractionText_eq (text : Bytes)
    : fractionText text = (Decimal.leadingFraction text).elim [] (46 :: ·) := by
  unfold fractionText
  split
  . rfl
  . next hnot =>
    have hnone : Decimal.leadingFraction text = none := by
      unfold Decimal.leadingFraction
      split
      . exact absurd rfl (hnot _)
      . rfl
    rw [hnone]
    rfl

theorem text_of_leading {text : Bytes} {d : Decimal} (h : Decimal.leading text = some d)
    : d.text = text.takeWhile isDigit ++ fractionText (text.dropWhile isDigit)
        ∧
      d.value = d.magnitude := by
  unfold Decimal.leading at h
  split at h
  . contradiction
  . rw [Option.some.injEq] at h
    rw [← h, fractionText_eq]
    simp [Decimal.text, signText, Decimal.unsignedText, Decimal.fractionText, Decimal.exponentText,
      Decimal.value]

/-- The search for a number reads the numeral behind the first place that has one. -/
theorem unquotedNumber_eq (json : Bytes) (hkey : (46 : UInt8) ∉ key)
    : unquotedNumber json key
        =
      (firstBehind (exactly key) Decimal.leading json).elim [] Decimal.text := by
  unfold unquotedNumber search
  dsimp only
  rw [quotedKey_append hkey]
  obtain ⟨hsearch, hfirst⟩ | ⟨before, text, rest, m, hs, hsearch, hmatch, hfirst⟩ :=
    searchFrom_namePattern (exactly key) matchHere_digitTail_space isSome_leading json 0
  . unfold digitTail at hsearch
    rw [hsearch, hfirst]
    rfl
  . have hsome := isSome_leading rest (Match.pushAll {} text)
    rw [hmatch, Option.isSome_some] at hsome
    obtain ⟨d, hd⟩ := Option.isSome_iff_exists.mp hsome.symm
    have hgroup : m.group = rest.takeWhile isDigit := group_of_matchHere_run (by simp) hmatch
    have hlength : m.length = (Match.pushAll {} text).length + (rest.takeWhile isDigit).length :=
      length_of_matchHere_run hmatch
    have hjson : json = (before ++ (text ++ rest.takeWhile isDigit)) ++ rest.dropWhile isDigit := by
      rw [hs]
      simp only [List.append_assoc, List.takeWhile_append_dropWhile]
    have hdrop : json.drop (0 + before.length + m.length) = rest.dropWhile isDigit := by
      rw [hjson, List.drop_left']
      rw [hlength, Match.pushAll_length]
      simp
    unfold digitTail at hsearch
    rw [hsearch, hfirst, hd]
    dsimp only
    rw [hdrop, hgroup]
    exact (text_of_leading hd).1.symm

def wordTail (word : Bytes) : List Item := .openGroup :: (word.map isSame ++ [.closeGroup])

theorem quotedKeyIgnoringCase_append (key : Bytes) (tail : List Item)
    : quotedKeyIgnoringCase key ++ colon ++ tail = namePattern (ignoringCase key) tail :=
  (pasted_append key (fun c b => toLower b = toLower c) tail).trans (by simp [ignoringCase])

theorem fitsHere_isSame (word text : Bytes)
    : fitsHere (word.map fun c b => toLower b = toLower c) text
        =
      decide ((text.take word.length).map toLower = word.map toLower) := by
  induction word generalizing text with
  | nil => simp [fitsHere]
  | cons c word ih =>
    cases text with
    | nil => simp [fitsHere]
    | cons b text => simp [fitsHere, ih]

theorem matchHere_wordTail (word rest : Bytes) (m : Match)
    : matchHere (wordTail word) rest m
        =
      if (rest.take word.length).map toLower = word.map toLower then
        some { ({ m with inGroup := true }.pushAll (rest.take word.length)) with inGroup := false }
      else
        none := by
  have hword : word.map isSame = (word.map fun c b => decide (toLower b = toLower c)).map .one := by
    rw [List.map_map]
    rfl
  show matchHere (word.map isSame ++ [.closeGroup]) rest _ = _
  rw [hword, matchHere_ones, fitsHere_isSame, List.length_map]
  simp only [decide_eq_true_eq]
  rfl

def wordPattern (key word : Bytes) : List Item := namePattern (ignoringCase key) (wordTail word)

structure IsWord (word : Bytes) : Prop where
  ne_nil : word ≠ []
  head : ∀ c ∈ word.head?, isSpace (toLower c) = false

theorem IsWord.matchHere_space {word : Bytes} (h : IsWord word) (c : UInt8) (rest : Bytes)
    (m : Match)
    (hc : isSpace c = true)
    : matchHere (wordTail word) (c :: rest) m = none := by
  have hne := h.ne_nil
  rw [matchHere_wordTail, if_neg]
  cases word with
  | nil => contradiction
  | cons b word =>
    intro heq
    have hb := h.head b rfl
    rw [← (List.cons.inj heq).1] at hb
    unfold isSpace at hc
    unfold toLower isSpace at hb
    grind

theorem IsWord.matchHere_ne {word s rest : Bytes} (h : IsWord word)
    (hbehind : behind (ignoringCase key) s = some rest)
    (hword : (rest.take word.length).map toLower ≠ word.map toLower)
    : matchHere (wordPattern key word) s {} = none := by
  obtain ⟨text, _, hmatch⟩ := matchHere_of_behind_some h.matchHere_space hbehind
  unfold wordPattern
  rw [hmatch, matchHere_wordTail, if_neg hword]

theorem IsWord.exists_matchHere {word s rest : Bytes} (h : IsWord word)
    (hbehind : behind (ignoringCase key) s = some rest)
    (hword : (rest.take word.length).map toLower = word.map toLower)
    : ∃ m, matchHere (wordPattern key word) s {} = some m
        ∧ m.group.map toLower = word.map toLower := by
  obtain ⟨text, _, hmatch⟩ := matchHere_of_behind_some h.matchHere_space hbehind
  unfold wordPattern
  rw [hmatch, matchHere_wordTail, if_pos hword]
  refine ⟨_, rfl, ?_⟩
  rw [← hword]
  simp

def groupOf : Option (Nat × Match) → Bytes
  | some (_, m) => m.group
  | none => []

def wordOf (value : Bool) : Bytes := if value then str "true" else str "false"

/-- The group of the pattern that matches first, of the two that look for `true` and for `false`. -/
theorem toLower_leftmost (key s : Bytes) (pos : Nat)
    : (groupOf (leftmost (searchFrom (wordPattern key (str "true")) s pos)
          (searchFrom (wordPattern key (str "false")) s pos))).map toLower
        =
      (firstBehind (ignoringCase key) leadingWord s).elim [] wordOf := by
  have hisTrue : IsWord (str "true") := ⟨by decide, by simp [str, toLower, isSpace]⟩
  have hisFalse : IsWord (str "false") := ⟨by decide, by simp [str, toLower, isSpace]⟩
  induction s generalizing pos with
  | nil => rfl
  | cons c s ih =>
    have hskip : matchHere (wordPattern key (str "true")) (c :: s) {} = none
        → matchHere (wordPattern key (str "false")) (c :: s) {} = none
        → (behind (ignoringCase key) (c :: s)).bind leadingWord = none
        → (groupOf (leftmost (searchFrom (wordPattern key (str "true")) (c :: s) pos)
            (searchFrom (wordPattern key (str "false")) (c :: s) pos))).map toLower
          = (firstBehind (ignoringCase key) leadingWord (c :: s)).elim [] wordOf := by
      intro hnone hnone' hnothing
      rw [searchFrom_cons_of_none hnone, searchFrom_cons_of_none hnone', firstBehind_cons, hnothing,
        Option.none_or]
      exact ih (pos + 1)
    cases hbehind : behind (ignoringCase key) (c :: s) with
    | none =>
      apply hskip (matchHere_of_behind_none hbehind) (matchHere_of_behind_none hbehind)
      rw [hbehind]
      rfl
    | some rest =>
      by_cases htrue : (rest.take 4).map toLower = str "true"
      . obtain ⟨m, hmatch, hgroup⟩ := hisTrue.exists_matchHere hbehind htrue
        rw [leftmost_of_left hmatch, firstBehind_cons, hbehind, Option.bind_some]
        unfold leadingWord
        rw [if_pos htrue]
        exact hgroup
      . have hnone := hisTrue.matchHere_ne hbehind htrue
        by_cases hfalse : (rest.take 5).map toLower = str "false"
        . obtain ⟨m, hmatch, hgroup⟩ := hisFalse.exists_matchHere hbehind hfalse
          rw [leftmost_of_right hnone hmatch, firstBehind_cons, hbehind, Option.bind_some]
          unfold leadingWord
          rw [if_neg htrue, if_pos hfalse]
          exact hgroup
        . apply hskip hnone (hisFalse.matchHere_ne hbehind hfalse)
          rw [hbehind, Option.bind_some]
          unfold leadingWord
          rw [if_neg htrue, if_neg hfalse]

/-- The search for a Boolean reads the word behind the first place that has one. -/
theorem toLower_unquotedBoolean (json key : Bytes)
    : (unquotedBoolean json key).map toLower
        =
      (firstBehind (ignoringCase key) leadingWord json).elim [] wordOf := by
  rw [← toLower_leftmost key json 0]
  unfold unquotedBoolean searchEither search wordPattern
  dsimp only
  rw [← quotedKeyIgnoringCase_append, ← quotedKeyIgnoringCase_append]
  rfl

end

end NetmonPlugins

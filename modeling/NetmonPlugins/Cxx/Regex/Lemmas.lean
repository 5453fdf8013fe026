import NetmonPlugins.Cxx.Regex

/-!
This module contains what the items of a pattern match: one lemma for each kind of item, and where
a search finds a match.
-/

namespace NetmonPlugins
namespace Regex

def Match.pushAll (m : Match) (text : Bytes) : Match := text.foldl Match.push m

@[simp]
theorem Match.pushAll_nil (m : Match) : m.pushAll [] = m := rfl

@[simp]
theorem Match.pushAll_cons (m : Match) (c : UInt8) (text : Bytes)
    : m.pushAll (c :: text) = (m.push c).pushAll text :=
  rfl

theorem Match.pushAll_append (m : Match) (text text' : Bytes)
    : m.pushAll (text ++ text') = (m.pushAll text).pushAll text' :=
  List.foldl_append

@[simp]
theorem Match.pushAll_length (m : Match) (text : Bytes)
    : (m.pushAll text).length = m.length + text.length := by
  induction text generalizing m with
  | nil => rfl
  | cons c text ih =>
    rw [pushAll_cons, ih, List.length_cons]
    simp only [push]
    omega

@[simp]
theorem Match.pushAll_inGroup (m : Match) (text : Bytes)
    : (m.pushAll text).inGroup = m.inGroup := by
  induction text generalizing m with
  | nil => rfl
  | cons c text ih =>
    rw [pushAll_cons, ih]
    rfl

@[simp]
theorem Match.pushAll_group (m : Match) (text : Bytes)
    : (m.pushAll text).group = if m.inGroup then m.group ++ text else m.group := by
  induction text generalizing m with
  | nil => simp
  | cons c text ih =>
    rw [pushAll_cons, ih]
    simp only [push]
    split
    . simp
    . rfl

section

variable {p : UInt8 → Bool} {items : List Item} {m m' : Match}

theorem matchHere_literal (text s : Bytes)
    : matchHere (literal text ++ items) (text ++ s) m = matchHere items s (m.pushAll text) := by
  induction text generalizing m with
  | nil => rfl
  | cons c text ih =>
    show (if decide (c = c) then matchHere (literal text ++ items) (text ++ s) (m.push c) else none)
      = _
    rw [decide_eq_true rfl, if_pos rfl, ih]
    rfl

theorem exists_of_matchHere_literal {text s : Bytes}
    (h : matchHere (literal text ++ items) s m = some m')
    : ∃ rest, s = text ++ rest ∧ matchHere items rest (m.pushAll text) = some m' := by
  induction text generalizing s m with
  | nil => exact ⟨s, rfl, h⟩
  | cons c text ih =>
    cases s with
    | nil => contradiction
    | cons b s =>
      change (if decide (b = c) then matchHere (literal text ++ items) s (m.push b) else none) = _
        at h
      split at h
      . next hb =>
        obtain ⟨rest, hs, hmatch⟩ := ih h
        rw [of_decide_eq_true hb] at hmatch ⊢
        rw [hs]
        exact ⟨rest, rfl, hmatch⟩
      . contradiction

theorem matchHere_literal_of_not_isPrefix {text s : Bytes} (h : ¬ text <+: s)
    : matchHere (literal text ++ items) s m = none := by
  rw [Option.eq_none_iff_forall_not_mem]
  intro m' hm'
  obtain ⟨rest, hs, _⟩ := exists_of_matchHere_literal hm'
  apply h
  rw [hs]
  apply List.prefix_append

theorem isSome_matchHere_literal {text s : Bytes}
    : (matchHere (literal text) s m).isSome = true ↔ text <+: s := by
  rw [← List.append_nil (literal text)]
  constructor
  . intro h
    obtain ⟨m', hm⟩ := Option.isSome_iff_exists.mp h
    obtain ⟨rest, rfl, -⟩ := exists_of_matchHere_literal hm
    apply List.prefix_append
  . rintro ⟨rest, rfl⟩
    rw [matchHere_literal]
    rfl

theorem exists_of_manyThen {next : Bytes → Match → Option Match} {s : Bytes}
    (h : manyThen p next s m = some m')
    : ∃ run rest, s = run ++ rest ∧ (∀ c ∈ run, p c = true)
        ∧ next rest (m.pushAll run) = some m' := by
  induction s generalizing m with
  | nil => exact ⟨[], [], rfl, by simp, h⟩
  | cons c s ih =>
    rw [manyThen] at h
    split at h
    . next hc =>
      rw [Option.or_eq_some_iff] at h
      cases h with
      | inl hmore =>
        obtain ⟨run, rest, hs, hrun, hnext⟩ := ih hmore
        refine ⟨c :: run, rest, by rw [hs]; rfl, ?_, hnext⟩
        rw [List.forall_mem_cons]
        exact ⟨hc, hrun⟩
      | inr hdone => exact ⟨[], c :: s, rfl, by simp, hdone.2⟩
    . exact ⟨[], c :: s, rfl, by simp, h⟩

/--
A repetition takes all it can if what follows it then matches, or can match at no byte that the
repetition takes.
-/
theorem manyThen_eq {next : Bytes → Match → Option Match} {s : Bytes}
    (h : (next (s.dropWhile p) (m.pushAll (s.takeWhile p))).isSome
      ∨ ∀ c rest m, p c = true → next (c :: rest) m = none)
    : manyThen p next s m = next (s.dropWhile p) (m.pushAll (s.takeWhile p)) := by
  induction s generalizing m with
  | nil => rfl
  | cons c s ih =>
    rw [manyThen]
    by_cases hc : p c = true
    . rw [List.dropWhile_cons_of_pos hc, List.takeWhile_cons_of_pos hc, Match.pushAll_cons] at *
      rw [if_pos hc, ih h]
      cases h with
      | inl hsome => rw [Option.or_of_isSome hsome]
      | inr hnone => rw [hnone c s m hc, Option.or_none]
    . rw [List.dropWhile_cons_of_neg hc, List.takeWhile_cons_of_neg hc, if_neg hc]
      rfl

theorem manyThen_append {next : Bytes → Match → Option Match} {run s : Bytes}
    (hrun : ∀ c ∈ run, p c = true) (hs : ∀ c ∈ s.head?, p c = false)
    (h : (next s (m.pushAll run)).isSome ∨ ∀ c rest m, p c = true → next (c :: rest) m = none)
    : manyThen p next (run ++ s) m = next s (m.pushAll run) := by
  have htake := takeWhile_append_of_head hrun hs
  have hdrop := dropWhile_append_of_head hrun hs
  rw [manyThen_eq, htake, hdrop]
  rwa [htake, hdrop]

theorem matchHere_run {s : Bytes} (h : s.takeWhile p ≠ [])
    : matchHere [.openGroup, .one p, .many p, .closeGroup] s m
        =
      some { ({ m with inGroup := true }.pushAll (s.takeWhile p)) with inGroup := false } := by
  cases s with
  | nil => contradiction
  | cons c s =>
    have hc : p c = true := by
      by_contra hc
      rw [List.takeWhile_cons_of_neg hc] at h
      contradiction
    simp only [matchHere]
    rw [if_pos hc, manyThen_eq (.inl rfl), List.takeWhile_cons_of_pos hc]
    rfl

theorem matchHere_run_of_nil {s : Bytes} (h : s.takeWhile p = [])
    : matchHere [.openGroup, .one p, .many p, .closeGroup] s m = none := by
  cases s with
  | nil => rfl
  | cons c s =>
    have hc : ¬ p c = true := by
      intro hc
      rw [List.takeWhile_cons_of_pos hc] at h
      contradiction
    simp only [matchHere]
    rw [if_neg hc]

theorem eq_of_matchHere_run {s : Bytes}
    (h : matchHere [.openGroup, .one p, .many p, .closeGroup] s m = some m')
    : m' = { ({ m with inGroup := true }.pushAll (s.takeWhile p)) with inGroup := false } := by
  by_cases hrun : s.takeWhile p = []
  . rw [matchHere_run_of_nil hrun] at h
    contradiction
  . rw [matchHere_run hrun] at h
    injection h with h
    exact h.symm

theorem group_of_matchHere_run {s : Bytes} (hm : m.group = [])
    (h : matchHere [.openGroup, .one p, .many p, .closeGroup] s m = some m')
    : m'.group = s.takeWhile p := by
  rw [eq_of_matchHere_run h]
  simp [hm]

theorem length_of_matchHere_run {s : Bytes}
    (h : matchHere [.openGroup, .one p, .many p, .closeGroup] s m = some m')
    : m'.length = m.length + (s.takeWhile p).length := by
  rw [eq_of_matchHere_run h]
  simp

end

theorem matchHere_one_of_ne {c b : UInt8} (hb : b ≠ c) (s : Bytes) (m : Match) (items : List Item)
    : matchHere (.one (· = c) :: items) (b :: s) m = none := by
  rw [matchHere, decide_eq_false hb, if_neg Bool.false_ne_true]

theorem searchFrom_cons_of_none {items : List Item} {c : UInt8} {s : Bytes} {pos : Nat}
    (h : matchHere items (c :: s) {} = none)
    : searchFrom items (c :: s) pos = searchFrom items s (pos + 1) := by
  rw [searchFrom, h]

theorem searchFrom_of_isSome {items : List Item} {s : Bytes} {pos : Nat}
    (h : (matchHere items s {}).isSome)
    : searchFrom items s pos = (matchHere items s {}).map (pos, ·) := by
  cases s with
  | nil => rfl
  | cons c s =>
    rw [searchFrom]
    split
    . next m hmatch =>
      rw [hmatch]
      rfl
    . next hmatch =>
      rw [hmatch] at h
      contradiction

theorem isSome_searchFrom_pos {items : List Item} {s : Bytes} (pos pos' : Nat)
    : (searchFrom items s pos).isSome = (searchFrom items s pos').isSome := by
  induction s generalizing pos pos' with
  | nil => simp [searchFrom]
  | cons c s ih =>
    rw [searchFrom, searchFrom]
    cases matchHere items (c :: s) {} with
    | none => exact ih _ _
    | some m => rfl

theorem matchHere_literal_cases (text s : Bytes)
    : (text <+: s ∧ ∃ m, matchHere (literal text) s {} = some m)
        ∨
      ¬ text <+: s ∧ matchHere (literal text) s {} = none := by
  have hhere : (matchHere (literal text) s {}).isSome = true ↔ text <+: s :=
    isSome_matchHere_literal
  rw [← hhere]
  cases hmatch : matchHere (literal text) s {} with
  | none => exact .inr ⟨Bool.false_ne_true, rfl⟩
  | some m => exact .inl ⟨rfl, m, rfl⟩

/-- `std::string::find` searches like the pattern without special characters. -/
theorem findFrom_eq_searchFrom (text s : Bytes) (pos : Nat)
    : findFrom text s pos = (searchFrom (literal text) s pos).map (·.1) := by
  induction s generalizing pos with
  | nil =>
    rw [findFrom, searchFrom]
    rcases matchHere_literal_cases text [] with ⟨htext, m, hm⟩ | ⟨htext, hm⟩
    . rw [List.prefix_nil] at htext
      rw [if_pos htext, hm]
      rfl
    . rw [List.prefix_nil] at htext
      rw [if_neg htext, hm]
      rfl
  | cons c s ih =>
    rw [findFrom, searchFrom]
    rcases matchHere_literal_cases text (c :: s) with ⟨htext, m, hm⟩ | ⟨htext, hm⟩
    . rw [if_pos htext, hm]
      rfl
    . rw [if_neg htext, hm, ih]

theorem exists_of_searchFrom {items : List Item} {s : Bytes} {pos pos' : Nat} {m : Match}
    (h : searchFrom items s pos = some (pos', m))
    : ∃ skipped rest, s = skipped ++ rest ∧ pos' = pos + skipped.length
        ∧ matchHere items rest {} = some m := by
  induction s generalizing pos with
  | nil =>
    rw [searchFrom, Option.map_eq_some_iff] at h
    obtain ⟨m', hmatch, heq⟩ := h
    rw [Prod.mk.injEq] at heq
    rw [heq.2] at hmatch
    exact ⟨[], [], rfl, heq.1.symm, hmatch⟩
  | cons c s ih =>
    rw [searchFrom] at h
    split at h
    . next m' hmatch =>
      rw [Option.some.injEq, Prod.mk.injEq] at h
      rw [h.2] at hmatch
      exact ⟨[], c :: s, rfl, h.1.symm, hmatch⟩
    . obtain ⟨skipped, rest, hs, hpos, hmatch⟩ := ih h
      refine ⟨c :: skipped, rest, by rw [hs]; rfl, ?_, hmatch⟩
      rw [hpos, List.length_cons]
      omega

theorem exists_of_search {items : List Item} {s : Bytes} {pos : Nat} {m : Match}
    (h : search items s = some (pos, m))
    : ∃ skipped rest, s = skipped ++ rest ∧ pos = skipped.length
        ∧ matchHere items rest {} = some m := by
  obtain ⟨skipped, rest, hs, hpos, hmatch⟩ := exists_of_searchFrom h
  rw [Nat.zero_add] at hpos
  exact ⟨skipped, rest, hs, hpos, hmatch⟩

theorem searchFrom_eq_some_iff {items : List Item} {s : Bytes} {pos pos' : Nat} {m : Match}
    : searchFrom items s pos = some (pos', m)
        ↔
      ∃ k, pos' = pos + k ∧ k ≤ s.length ∧ matchHere items (s.drop k) {} = some m
        ∧ ∀ j, j < k → matchHere items (s.drop j) {} = none := by
  induction s generalizing pos with
  | nil =>
    simp only [searchFrom, Option.map_eq_some_iff, Prod.mk.injEq, List.length_nil, List.drop_nil,
      Nat.le_zero_eq]
    constructor
    . rintro ⟨m', hmatch, rfl, rfl⟩
      exact ⟨0, rfl, rfl, hmatch, by omega⟩
    . rintro ⟨k, rfl, rfl, hmatch, -⟩
      exact ⟨m, hmatch, rfl, rfl⟩
  | cons c s ih =>
    rw [searchFrom]
    split
    . next m' hmatch =>
      rw [Option.some.injEq, Prod.mk.injEq]
      constructor
      . rintro ⟨rfl, rfl⟩
        exact ⟨0, rfl, Nat.zero_le _, hmatch, by omega⟩
      . rintro ⟨k, rfl, -, hat, hfirst⟩
        cases k with
        | zero =>
          rw [List.drop_zero, hmatch, Option.some.injEq] at hat
          exact ⟨rfl, hat⟩
        | succ k =>
          have hnone := hfirst 0 (by omega)
          rw [List.drop_zero, hmatch] at hnone
          contradiction
    . next hnone =>
      rw [ih]
      constructor
      . rintro ⟨k, rfl, hk, hat, hfirst⟩
        refine ⟨k + 1, by omega, by simpa using hk, by simpa using hat, ?_⟩
        intro j hj
        cases j with
        | zero => exact hnone
        | succ j => exact hfirst j (by omega)
      . rintro ⟨k, rfl, hk, hat, hfirst⟩
        cases k with
        | zero =>
          rw [List.drop_zero, hnone] at hat
          contradiction
        | succ k =>
          refine ⟨k, by omega, by simpa using hk, by simpa using hat, ?_⟩
          intro j hj
          exact hfirst (j + 1) (by omega)

theorem search_eq_some_iff {items : List Item} {s : Bytes} {pos : Nat} {m : Match}
    : search items s = some (pos, m)
        ↔
      pos ≤ s.length ∧ matchHere items (s.drop pos) {} = some m
        ∧ ∀ j, j < pos → matchHere items (s.drop j) {} = none := by
  unfold search
  rw [searchFrom_eq_some_iff]
  constructor
  . rintro ⟨k, rfl, h⟩
    rwa [Nat.zero_add]
  . intro h
    exact ⟨pos, (Nat.zero_add pos).symm, h⟩

section

variable {items items' : List Item} {c : UInt8} {s : Bytes} {pos : Nat} {m : Match}

theorem le_of_searchFrom {pos' : Nat} (h : searchFrom items s pos = some (pos', m)) : pos ≤ pos' := by
  obtain ⟨skipped, rest, _, hpos, _⟩ := exists_of_searchFrom h
  omega

theorem leftmost_of_left (h : matchHere items (c :: s) {} = some m)
    : leftmost (searchFrom items (c :: s) pos) (searchFrom items' (c :: s) pos) = some (pos, m) := by
  rw [searchFrom, h]
  cases hright : searchFrom items' (c :: s) pos with
  | none => rfl
  | some found' =>
    have hle : pos ≤ found'.1 := le_of_searchFrom (m := found'.2) hright
    show (if pos ≤ found'.1 then some (pos, m) else some found') = _
    rw [if_pos hle]

theorem leftmost_of_right (hnone : matchHere items (c :: s) {} = none)
    (h : matchHere items' (c :: s) {} = some m)
    : leftmost (searchFrom items (c :: s) pos) (searchFrom items' (c :: s) pos) = some (pos, m) := by
  rw [searchFrom_cons_of_none hnone]
  have hright : searchFrom items' (c :: s) pos = some (pos, m) := by
    rw [searchFrom, h]
  rw [hright]
  cases hleft : searchFrom items s (pos + 1) with
  | none => rfl
  | some found =>
    have hle : pos + 1 ≤ found.1 := le_of_searchFrom (m := found.2) hleft
    show (if found.1 ≤ pos then some found else some (pos, m)) = _
    rw [if_neg (by omega)]

end

/-- The text begins with one byte of each class. -/
def fitsHere : List (UInt8 → Bool) → Bytes → Bool
  | [], _ => true
  | _ :: _, [] => false
  | p :: ps, c :: s => p c && fitsHere ps s

theorem matchHere_ones (classes : List (UInt8 → Bool)) (items : List Item) (s : Bytes) (m : Match)
    : matchHere (classes.map .one ++ items) s m
        =
      if fitsHere classes s then
        matchHere items (s.drop classes.length) (m.pushAll (s.take classes.length))
      else
        none := by
  induction classes generalizing s m with
  | nil => simp [fitsHere]
  | cons p classes ih =>
    cases s with
    | nil => rfl
    | cons c s =>
      show (if p c then matchHere (classes.map .one ++ items) s (m.push c) else none)
        = if p c && fitsHere classes s then _ else _
      rw [ih]
      cases p c with
      | false => rfl
      | true => rfl

end Regex
end NetmonPlugins

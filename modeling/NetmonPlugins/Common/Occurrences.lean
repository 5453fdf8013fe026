import NetmonPlugins.Cxx.Bytes

/-!
This module contains the counting loop of the API checks, and what `find` makes of a text of lines
that end in CRLF.
-/

namespace NetmonPlugins

/-- `while ((pos = s.find(pat, pos)) != npos) { count++; pos += pat.length(); }` -/
def countOccurrences (s pat : Bytes) (hpat : pat ≠ []) (pos : Nat) : Nat :=
  match _hfind : find s pat pos with
  | none => 0
  | some found => 1 + countOccurrences s pat hpat (found + pat.length)
termination_by s.length + 1 - pos
decreasing_by
  have hfound := (find_eq_some_iff _ _ _ _).mp _hfind
  have hpos := List.length_pos_of_ne_nil hpat
  omega

theorem nameKey_ne_nil : str "\"name\"" ≠ [] := by decide

variable {pat : Bytes} (hpat : pat ≠ [])

theorem find_append_add (skipped s : Bytes) (pos : Nat)
    : find (skipped ++ s) pat (skipped.length + pos)
        =
      (find s pat pos).map (skipped.length + ·) := by
  have hdrop : ∀ i, (skipped ++ s).drop (skipped.length + i) = s.drop i := by
    intro i
    rw [List.drop_append, List.drop_eq_nil_of_le (by omega)]
    simp
  cases hfind : find s pat pos with
  | none =>
    rw [Option.map_none, find_eq_none_iff]
    rw [find_eq_none_iff] at hfind
    intro j hpos hlength
    obtain ⟨i, rfl⟩ := Nat.exists_eq_add_of_le (Nat.le_of_add_right_le hpos)
    rw [hdrop]
    rw [List.length_append] at hlength
    exact hfind i (by omega) (by omega)
  | some found =>
    rw [Option.map_some, find_eq_some_iff, hdrop]
    obtain ⟨hpos, hlength, hat, hfirst⟩ := (find_eq_some_iff _ _ _ _).mp hfind
    refine ⟨by omega, by rw [List.length_append]; omega, hat, ?_⟩
    intro j hj hbefore
    obtain ⟨i, rfl⟩ := Nat.exists_eq_add_of_le (Nat.le_of_add_right_le hj)
    rw [hdrop]
    exact hfirst i (by omega) (by omega)

theorem countOccurrences_append_add (skipped s : Bytes) (pos : Nat)
    : countOccurrences (skipped ++ s) pat hpat (skipped.length + pos)
        =
      countOccurrences s pat hpat pos := by
  fun_induction countOccurrences s pat hpat pos with
  | case1 pos hfind =>
    rw [countOccurrences]
    split
    . rfl
    . next found hfound =>
      rw [find_append_add, hfind] at hfound
      contradiction
  | case2 pos found hfind ih =>
    rw [countOccurrences]
    split
    . next hnone =>
      rw [find_append_add, hfind] at hnone
      contradiction
    . next found' hfound =>
      rw [find_append_add, hfind, Option.map_some, Option.some.injEq] at hfound
      rw [← hfound, Nat.add_assoc, ih]

theorem countOccurrences_congr {s : Bytes} {pos pos' : Nat} (h : find s pat pos = find s pat pos')
    : countOccurrences s pat hpat pos = countOccurrences s pat hpat pos' := by
  rw [countOccurrences, countOccurrences]
  split
  . next hnone =>
    split
    . rfl
    . next hfound =>
      rw [← h, hnone] at hfound
      contradiction
  . next hfound =>
    split
    . next hnone =>
      rw [← h, hfound] at hnone
      contradiction
    . next hfound' =>
      rw [← h, hfound, Option.some.injEq] at hfound'
      rw [hfound']

/-- What no occurrence begins in does not count. -/
theorem countOccurrences_append_of_skip {skipped s : Bytes}
    (h : findFrom pat (skipped ++ s) 0 = findFrom pat s skipped.length)
    : countOccurrences (skipped ++ s) pat hpat 0 = countOccurrences s pat hpat 0 := by
  have hfind : find (skipped ++ s) pat 0 = find (skipped ++ s) pat skipped.length := by
    rw [find_zero, h]
    unfold find
    rw [if_pos (by simp), List.drop_left]
  rw [countOccurrences_congr hpat hfind]
  exact countOccurrences_append_add hpat skipped s 0

/-- The count goes on behind the first occurrence. -/
theorem countOccurrences_of_findFrom_some {before s : Bytes}
    (h : findFrom pat (before ++ (pat ++ s)) 0 = some before.length)
    : countOccurrences (before ++ (pat ++ s)) pat hpat 0 = 1 + countOccurrences s pat hpat 0 := by
  rw [← find_zero] at h
  rw [countOccurrences]
  split
  . next hnone =>
    rw [h] at hnone
    contradiction
  . next found hfound =>
    rw [h, Option.some.injEq] at hfound
    rw [← hfound, ← List.append_assoc, ← List.length_append]
    exact congrArg (1 + ·) (countOccurrences_append_add hpat (before ++ pat) s 0)

theorem find_from {s pat : Bytes} {pos : Nat} (h : pos ≤ s.length)
    : find s pat pos = (find (s.drop pos) pat 0).map (pos + ·) := by
  have hadd : find (s.take pos ++ s.drop pos) pat ((s.take pos).length + 0)
      = (find (s.drop pos) pat 0).map ((s.take pos).length + ·) :=
    find_append_add (s.take pos) (s.drop pos) 0
  rwa [List.take_append_drop, List.length_take, Nat.min_eq_left h, Nat.add_zero] at hadd

theorem find_crlf_eq_some_iff {s : Bytes} {k : Nat}
    : find s crlf 0 = some k
        ↔
      ∃ line rest, s = line ++ (crlf ++ rest) ∧ k = line.length ∧ ¬ crlf <:+: line := by
  rw [find_eq_some_iff]
  constructor
  . rintro ⟨-, hk, ⟨rest, hrest⟩, hfirst⟩
    refine ⟨s.take k, rest, ?_, by rw [List.length_take]; omega, ?_⟩
    . rw [hrest, List.take_append_drop]
    . rintro ⟨before, after, hinfix⟩
      have hlength := congrArg List.length hinfix
      rw [List.length_append, List.length_append, List.length_take] at hlength
      have hcrlf : crlf.length = 2 := rfl
      apply hfirst before.length (Nat.zero_le _) (by omega)
      rw [← List.take_append_drop k s, ← hinfix, List.append_assoc, List.append_assoc,
        List.drop_left]
      apply List.prefix_append
  . rintro ⟨line, rest, rfl, rfl, hnot⟩
    refine ⟨Nat.zero_le _, by simp, by simp, ?_⟩
    intro j _ hj hprefix
    rw [List.drop_append_of_le_length (by omega)] at hprefix
    have hinside : line.drop j ≠ [] := by
      rw [ne_eq, List.drop_eq_nil_iff]
      omega
    match hline : line.drop j with
    | [] => contradiction
    | [c] => simp [hline, crlf] at hprefix
    | c :: c' :: line' =>
      simp [hline, crlf] at hprefix
      obtain ⟨rfl, rfl⟩ := hprefix
      apply hnot
      refine ⟨line.take j, line', ?_⟩
      rw [List.append_assoc]
      conv => rhs; rw [← List.take_append_drop j line, hline]
      rfl

def IsLine (text : Bytes) : Prop := ∀ c ∈ text, c ≠ 13 ∧ c ≠ 10

theorem isLine_append {text text' : Bytes} : IsLine (text ++ text') ↔ IsLine text ∧ IsLine text' := by
  unfold IsLine
  exact List.forall_mem_append

theorem IsLine.not_crlf_infix {text : Bytes} (h : IsLine text) : ¬ crlf <:+: text := by
  intro hinside
  exact (h 13 (hinside.subset (by decide))).1 rfl

theorem find_eq_of_no_prefix {s pat : Bytes} {n : Nat} (h : ∀ j, j < n → ¬ pat <+: s.drop j)
    : find s pat 0 = find s pat n := by
  cases hfind : find s pat n with
  | none =>
    rw [find_eq_none_iff] at hfind ⊢
    intro j _ hj
    by_cases hjn : j < n
    . exact h j hjn
    . exact hfind j (by omega) hj
  | some i =>
    rw [find_eq_some_iff] at hfind ⊢
    obtain ⟨hni, hi, hat, hfirst⟩ := hfind
    refine ⟨Nat.zero_le _, hi, hat, ?_⟩
    intro j _ hj
    by_cases hjn : j < n
    . exact h j hjn
    . exact hfirst j (by omega) hj

/-- A pattern without line breaks that is not in the line is not across its end either. -/
theorem find_line_cons {pat line rest : Bytes} (hpat : IsLine pat) (hne : pat ≠ [])
    (hnot : ¬ pat <:+: line)
    : find (line ++ (crlf ++ rest)) pat 0
        =
      (find rest pat 0).map ((line ++ crlf).length + ·) := by
  rw [← List.append_assoc, ← find_append_add, Nat.add_zero]
  apply find_eq_of_no_prefix
  intro j hj hprefix
  rw [List.length_append] at hj
  by_cases hinside : j ≤ line.length
  . rw [List.append_assoc, List.drop_append_of_le_length hinside] at hprefix
    rcases List.prefix_or_prefix_of_prefix hprefix (List.prefix_append _ _) with hline | ⟨beyond, hbeyond⟩
    . exact hnot (hline.isInfix.trans (List.drop_suffix j line).isInfix)
    . cases beyond with
      | nil =>
        rw [List.append_nil] at hbeyond
        exact hnot (hbeyond ▸ (List.drop_suffix j line).isInfix)
      | cons c beyond =>
        rw [← hbeyond, List.prefix_append_right_inj] at hprefix
        have hc : c = 13 := (List.cons_prefix_cons.mp hprefix).1
        exact (hpat c (by rw [← hbeyond]; simp)).1 hc
  . have hj' : j = (line ++ [13]).length := by
      have hcrlf : crlf.length = 2 := rfl
      simp only [List.length_append, List.length_singleton]
      omega
    have htext : line ++ crlf ++ rest = (line ++ [13]) ++ (10 :: rest) := by
      simp [crlf]
    rw [htext, hj', List.drop_left] at hprefix
    cases pat with
    | nil => contradiction
    | cons c pat =>
      have hc : c = 10 := (List.cons_prefix_cons.mp hprefix).1
      exact (hpat c List.mem_cons_self).2 hc

end NetmonPlugins

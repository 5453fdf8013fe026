import Mathlib.Data.List.Infix
import Mathlib.Data.List.TakeWhile

/-!
This module contains the part of `std::string` the checks are written with: byte strings, `find`
and `substr`. A `std::string` is the list of its bytes and `npos` is `none`.
-/

namespace NetmonPlugins

abbrev Bytes := List UInt8

def str (s : String) : Bytes := s.toList.map fun c => UInt8.ofNat c.toNat

def crlf : Bytes := [13, 10]

def toLower (b : UInt8) : UInt8 := if 65 ≤ b && b ≤ 90 then b + 32 else b

def isTabOrSpace (b : UInt8) : Bool := b = 9 || b = 32

def cstr (buffer : Bytes) : Bytes := buffer.takeWhile (· ≠ 0)

@[simp]
theorem cstr_of_notMem (buffer : Bytes) (h : (0 : UInt8) ∉ buffer) : cstr buffer = buffer := by
  unfold cstr
  rw [List.takeWhile_eq_self_iff]
  intro b hb
  simp only [ne_eq, decide_not, Bool.not_eq_eq_eq_not, Bool.not_true, decide_eq_false_iff_not]
  intro hzero
  exact h (hzero ▸ hb)

section

variable {α : Type _} {p : α → Bool} {run rest : List α}

theorem takeWhile_append_of_head (hrun : ∀ c ∈ run, p c = true)
    (hrest : ∀ c ∈ rest.head?, p c = false)
    : (run ++ rest).takeWhile p = run := by
  rw [List.takeWhile_append_of_pos hrun]
  cases rest with
  | nil => simp
  | cons c rest => simp [hrest c rfl]

theorem head_dropWhile (s : List α) : ∀ c ∈ (s.dropWhile p).head?, p c = false := by
  intro c hc
  have hnot := List.head?_dropWhile_not p s
  rw [Option.mem_def.mp hc] at hnot
  simpa using hnot

theorem dropWhile_append_of_head (hrun : ∀ c ∈ run, p c = true)
    (hrest : ∀ c ∈ rest.head?, p c = false)
    : (run ++ rest).dropWhile p = rest := by
  rw [List.dropWhile_append_of_pos hrun]
  cases rest with
  | nil => rfl
  | cons c rest => simp [hrest c rfl]

end

variable {α : Type _} [DecidableEq α]

def findFrom (pat : List α) : List α → Nat → Option Nat
  | [], pos => if pat = [] then some pos else none
  | c :: cs, pos => if pat <+: c :: cs then some pos else findFrom pat cs (pos + 1)

def find (s pat : List α) (pos : Nat) : Option Nat :=
  if pos ≤ s.length then findFrom pat (s.drop pos) pos else none

def contains (s pat : List α) : Bool := (find s pat 0).isSome

def substr (s : List α) (pos len : Nat) : List α := (s.drop pos).take len

/-- `npos + 1` wraps around to `0`. -/
def afterPos : Option Nat → Nat
  | some pos => pos + 1
  | none => 0

theorem findFrom_append_of_notMem (c : α) (pat skipped rest : List α) (pos : Nat) (h : c ∉ skipped)
    : findFrom (c :: pat) (skipped ++ rest) pos
        =
      findFrom (c :: pat) rest (pos + skipped.length) := by
  induction skipped generalizing pos with
  | nil => simp
  | cons b skipped ih =>
    simp only [List.mem_cons, not_or] at h
    have hpre : ¬ c :: pat <+: b :: (skipped ++ rest) := by
      rw [List.cons_prefix_cons]
      simp [h.1]
    rw [List.cons_append, findFrom, if_neg hpre, ih _ h.2, List.length_cons]
    congr 1
    omega

theorem findFrom_of_prefix (pat s : List α) (pos : Nat) (h : pat <+: s)
    : findFrom pat s pos = some pos := by
  cases s with
  | nil =>
    rw [List.prefix_nil] at h
    rw [findFrom, if_pos h]
  | cons c cs => rw [findFrom, if_pos h]

theorem find_zero (s pat : List α) : find s pat 0 = findFrom pat s 0 := by
  unfold find
  rw [if_pos (Nat.zero_le _), List.drop_zero]

theorem findFrom_eq_none_iff (pat s : List α) (pos : Nat)
    : findFrom pat s pos = none ↔ ∀ k, k ≤ s.length → ¬ pat <+: s.drop k := by
  induction s generalizing pos with
  | nil =>
    simp only [findFrom, List.length_nil, Nat.le_zero_eq, List.drop_nil, List.prefix_nil]
    constructor
    . intro h k _ hpat
      simp [hpat] at h
    . intro h
      simp [h 0 rfl]
  | cons c cs ih =>
    simp only [findFrom]
    split
    . next hpre =>
      simp only [reduceCtorEq, false_iff]
      intro h
      exact h 0 (Nat.zero_le _) hpre
    . next hpre =>
      rw [ih]
      constructor
      . intro h k hk
        cases k with
        | zero => exact hpre
        | succ k => exact h k (by simpa using hk)
      . intro h k hk
        exact h (k + 1) (by simpa using hk)

theorem findFrom_eq_some_iff (pat s : List α) (pos i : Nat)
    : findFrom pat s pos = some i
        ↔
      ∃ k, i = pos + k ∧ k ≤ s.length ∧ pat <+: s.drop k ∧ ∀ j, j < k → ¬ pat <+: s.drop j := by
  induction s generalizing pos with
  | nil =>
    simp only [findFrom, List.length_nil, Nat.le_zero_eq, List.drop_nil, List.prefix_nil]
    constructor
    . intro h
      split at h
      . next hpat =>
        refine ⟨0, ?_, rfl, hpat, by omega⟩
        simpa using h.symm
      . contradiction
    . rintro ⟨k, rfl, rfl, hpat, _⟩
      simp [hpat]
  | cons c cs ih =>
    simp only [findFrom]
    split
    . next hpre =>
      simp only [Option.some.injEq]
      constructor
      . intro h
        exact ⟨0, h.symm, Nat.zero_le _, hpre, by omega⟩
      . rintro ⟨k, rfl, _, _, hfirst⟩
        cases k with
        | zero => rfl
        | succ k => exact absurd hpre (hfirst 0 (by omega))
    . next hpre =>
      rw [ih]
      constructor
      . rintro ⟨k, rfl, hk, hat, hfirst⟩
        refine ⟨k + 1, by omega, by simpa using hk, by simpa using hat, ?_⟩
        intro j hj
        cases j with
        | zero => exact hpre
        | succ j => exact hfirst j (by omega)
      . rintro ⟨k, rfl, hk, hat, hfirst⟩
        cases k with
        | zero => exact absurd hat hpre
        | succ k =>
          refine ⟨k, by omega, by simpa using hk, by simpa using hat, ?_⟩
          intro j hj
          exact hfirst (j + 1) (by omega)

theorem find_eq_some_iff (s pat : List α) (pos i : Nat)
    : find s pat pos = some i
        ↔
      pos ≤ i ∧ i ≤ s.length ∧ pat <+: s.drop i ∧ ∀ j, pos ≤ j → j < i → ¬ pat <+: s.drop j := by
  unfold find
  split
  . rw [findFrom_eq_some_iff]
    simp only [List.length_drop, List.drop_drop]
    constructor
    . rintro ⟨k, rfl, hk, hat, hfirst⟩
      refine ⟨by omega, by omega, hat, ?_⟩
      intro j hj1 hj2
      have := hfirst (j - pos) (by omega)
      rwa [Nat.add_sub_cancel' hj1] at this
    . rintro ⟨hpos, hi, hat, hfirst⟩
      refine ⟨i - pos, by omega, by omega, ?_, ?_⟩
      . rwa [Nat.add_sub_cancel' hpos]
      . intro j hj
        exact hfirst (pos + j) (by omega) (by omega)
  . simp only [reduceCtorEq, false_iff]
    omega

theorem find_eq_none_iff (s pat : List α) (pos : Nat)
    : find s pat pos = none ↔ ∀ j, pos ≤ j → j ≤ s.length → ¬ pat <+: s.drop j := by
  unfold find
  split
  . rw [findFrom_eq_none_iff]
    simp only [List.length_drop, List.drop_drop]
    constructor
    . intro h j hj1 hj2
      have := h (j - pos) (by omega)
      rwa [Nat.add_sub_cancel' hj1] at this
    . intro h k hk
      exact h (pos + k) (by omega) (by omega)
  . simp only [true_iff]
    omega

theorem find_append_of_some {pat s : List α} {i : Nat} (h : find s pat 0 = some i) (rest : List α)
    : find (s ++ rest) pat 0 = some i := by
  obtain ⟨_, hlength, hat, hfirst⟩ := (find_eq_some_iff _ _ _ _).mp h
  rw [find_eq_some_iff]
  refine ⟨Nat.zero_le _, by rw [List.length_append]; omega, ?_, ?_⟩
  . rw [List.drop_append_of_le_length hlength]
    exact hat.trans (List.prefix_append _ _)
  . intro j hj hbefore hprefix
    have hfits := hat.length_le
    rw [List.length_drop] at hfits
    rw [List.drop_append_of_le_length (by omega)] at hprefix
    apply hfirst j hj hbefore
    apply List.prefix_of_prefix_length_le hprefix (List.prefix_append _ rest)
    rw [List.length_drop]
    omega

theorem eq_of_dropWhile_ne {s after : List α} {c b : α} (h : s.dropWhile (· ≠ c) = b :: after)
    : b = c := by
  have hhead := head_dropWhile (p := (· ≠ c)) s b (by rw [h]; rfl)
  simpa using hhead

theorem exists_find_singleton {s after : List α} {c b : α} {pos : Nat}
    (h : (s.drop pos).dropWhile (· ≠ c) = b :: after)
    : ∃ found, find s [c] pos = some found ∧ s.drop (found + 1) = after := by
  have hb : b = c := eq_of_dropWhile_ne h
  have hpos : pos ≤ s.length := by
    by_contra hlong
    rw [List.drop_eq_nil_of_le (by omega)] at h
    contradiction
  obtain ⟨run, hrun, hnot⟩ : ∃ run, s.drop pos = run ++ b :: after ∧ c ∉ run := by
    refine ⟨(s.drop pos).takeWhile (· ≠ c), ?_, ?_⟩
    . rw [← h, List.takeWhile_append_dropWhile]
    . intro hmem
      have hne := List.mem_takeWhile_imp hmem
      simp at hne
  refine ⟨pos + run.length, ?_, ?_⟩
  . unfold find
    rw [if_pos hpos, hrun, findFrom_append_of_notMem _ _ _ _ _ hnot,
      findFrom_of_prefix _ _ _ (by simp [hb])]
  . rw [Nat.add_assoc, ← List.drop_drop, hrun, ← List.drop_drop, List.drop_left, List.drop_one,
      List.tail_cons]

theorem contains_iff_isInfix (s pat : List α) : contains s pat = true ↔ pat <:+: s := by
  unfold contains
  rw [Option.isSome_iff_exists]
  constructor
  . rintro ⟨i, hi⟩
    rw [find_eq_some_iff] at hi
    obtain ⟨_, _, hat, _⟩ := hi
    exact hat.isInfix.trans (List.drop_suffix i s).isInfix
  . rintro ⟨pre, post, rfl⟩
    rw [← Option.isSome_iff_exists, Option.isSome_iff_ne_none]
    intro hnone
    rw [find_eq_none_iff] at hnone
    apply hnone pre.length (Nat.zero_le _) (by simp)
    simp

end NetmonPlugins

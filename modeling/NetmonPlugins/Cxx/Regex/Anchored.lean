import NetmonPlugins.Cxx.Regex.Lemmas

/-!
This module contains `std::regex_search` for a pattern that begins with `^`, with the flag
`multiline`: a match begins at the start of the text or behind a line terminator.
-/

namespace NetmonPlugins
namespace Regex

def isLineTerminator (c : UInt8) : Bool := c = 10 || c = 13

/-- The first of the alternatives that matches here. -/
def firstMatch (alternatives : List (List Item)) (s : Bytes) : Option Match :=
  alternatives.findSome? fun items => matchHere items s {}

/-- The first argument is the byte in front of the text. -/
def searchLinesFrom (alternatives : List (List Item))
    : Option UInt8 → Bytes → Nat → Option (Nat × Match)
  | previous, [], pos =>
    if previous.all isLineTerminator then (firstMatch alternatives []).map (pos, ·) else none
  | previous, c :: s, pos =>
    match if previous.all isLineTerminator then firstMatch alternatives (c :: s) else none with
    | some m => some (pos, m)
    | none => searchLinesFrom alternatives (some c) s (pos + 1)

def searchLines (alternatives : List (List Item)) (s : Bytes) : Option (Nat × Match) :=
  searchLinesFrom alternatives none s 0

/-- The byte in front of the position ends a line, if there is one. -/
def IsLineStart (terminates : UInt8 → Bool) (s : Bytes) (pos : Nat) : Prop :=
  ∀ c ∈ (s.take pos).getLast?, terminates c = true

section

variable {alternatives : List (List Item)} {previous : Option UInt8} {s : Bytes} {pos : Nat}

/-- Where the search looks at the alternatives. -/
def Looks (previous : Option UInt8) (s : Bytes) (pos : Nat) : Prop :=
  ((s.take pos).getLast?.or previous).all isLineTerminator = true

theorem looks_none_iff : Looks none s pos ↔ IsLineStart isLineTerminator s pos := by
  rw [Looks, Option.or_none, IsLineStart]
  cases (s.take pos).getLast? with
  | none => simp
  | some c => simp

theorem looks_zero_iff : Looks previous s 0 ↔ previous.all isLineTerminator = true := Iff.rfl

theorem looks_succ_iff {c : UInt8} : Looks previous (c :: s) (pos + 1) ↔ Looks (some c) s pos := by
  rw [Looks, Looks, List.take_succ_cons, List.getLast?_cons]
  cases (s.take pos).getLast? with
  | none => rfl
  | some b => rfl

theorem searchLinesFrom_eq_some_iff {start pos : Nat} {m : Match}
    : searchLinesFrom alternatives previous s start = some (pos, m)
        ↔
      ∃ k, pos = start + k ∧ k ≤ s.length ∧ Looks previous s k
        ∧ firstMatch alternatives (s.drop k) = some m
        ∧ ∀ j, j < k → Looks previous s j → firstMatch alternatives (s.drop j) = none := by
  induction s generalizing previous start with
  | nil =>
    rw [searchLinesFrom]
    constructor
    . intro h
      split at h
      . next hlooks =>
        rw [Option.map_eq_some_iff] at h
        obtain ⟨m', hmatch, heq⟩ := h
        rw [Prod.mk.injEq] at heq
        rw [heq.2] at hmatch
        exact ⟨0, heq.1.symm, le_rfl, hlooks, hmatch, by omega⟩
      . contradiction
    . rintro ⟨k, rfl, hk, hlooks, hmatch, -⟩
      rw [List.length_nil, Nat.le_zero] at hk
      rw [hk, looks_zero_iff] at hlooks
      rw [hk, List.drop_zero] at hmatch
      rw [if_pos hlooks, hmatch, hk]
      rfl
  | cons c s ih =>
    rw [searchLinesFrom]
    split
    . next m' hmatch =>
      rw [Option.ite_none_right_eq_some] at hmatch
      rw [Option.some.injEq, Prod.mk.injEq]
      constructor
      . rintro ⟨rfl, rfl⟩
        exact ⟨0, rfl, Nat.zero_le _, hmatch.1, hmatch.2, by omega⟩
      . rintro ⟨k, rfl, -, -, hat, hfirst⟩
        cases k with
        | zero =>
          rw [List.drop_zero, hmatch.2, Option.some.injEq] at hat
          exact ⟨rfl, hat⟩
        | succ k =>
          have hnone := hfirst 0 (by omega) hmatch.1
          rw [List.drop_zero, hmatch.2] at hnone
          contradiction
    . next hnone =>
      rw [ih]
      constructor
      . rintro ⟨k, rfl, hk, hlooks, hat, hfirst⟩
        refine ⟨k + 1, by omega, by simpa using hk, looks_succ_iff.mpr hlooks, by simpa using hat, ?_⟩
        intro j hj hlooks'
        cases j with
        | zero => rwa [if_pos (looks_zero_iff.mp hlooks')] at hnone
        | succ j => exact hfirst j (by omega) (looks_succ_iff.mp hlooks')
      . rintro ⟨k, rfl, hk, hlooks, hat, hfirst⟩
        cases k with
        | zero =>
          rw [if_pos (looks_zero_iff.mp hlooks)] at hnone
          rw [List.drop_zero, hnone] at hat
          contradiction
        | succ k =>
          refine ⟨k, by omega, by simpa using hk, looks_succ_iff.mp hlooks, by simpa using hat, ?_⟩
          intro j hj hlooks'
          exact hfirst (j + 1) (by omega) (looks_succ_iff.mpr hlooks')

theorem searchLines_eq_some_iff {m : Match}
    : searchLines alternatives s = some (pos, m)
        ↔
      pos ≤ s.length ∧ IsLineStart isLineTerminator s pos
        ∧ firstMatch alternatives (s.drop pos) = some m
        ∧ ∀ j, j < pos → IsLineStart isLineTerminator s j
          → firstMatch alternatives (s.drop j) = none := by
  unfold searchLines
  rw [searchLinesFrom_eq_some_iff]
  simp only [looks_none_iff]
  constructor
  . rintro ⟨k, rfl, h⟩
    rwa [Nat.zero_add]
  . intro h
    exact ⟨pos, (Nat.zero_add pos).symm, h⟩

/-- The search fails only where no alternative matches at any start of a line. -/
theorem searchLines_eq_none_iff
    : searchLines alternatives s = none
        ↔
      ∀ pos ≤ s.length, IsLineStart isLineTerminator s pos
        → firstMatch alternatives (s.drop pos) = none := by
  constructor
  . intro hnone pos
    induction pos using Nat.strongRecOn with
    | ind pos ih =>
      intro hpos hstart
      rw [Option.eq_none_iff_forall_ne_some]
      intro m hmatch
      have hfound : searchLines alternatives s = some (pos, m) := by
        rw [searchLines_eq_some_iff]
        refine ⟨hpos, hstart, hmatch, ?_⟩
        intro j hj hstart'
        exact ih j hj (by omega) hstart'
      rw [hnone] at hfound
      contradiction
  . intro h
    rw [Option.eq_none_iff_forall_ne_some]
    rintro ⟨pos, m⟩ hfound
    obtain ⟨hpos, hstart, hmatch, -⟩ := searchLines_eq_some_iff.mp hfound
    rw [h pos hpos hstart] at hmatch
    contradiction

end

end Regex
end NetmonPlugins

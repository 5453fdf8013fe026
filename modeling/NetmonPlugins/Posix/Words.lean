import NetmonPlugins.Posix.Shell
import Mathlib.Algebra.BigOperators.Group.List.Basic
import Mathlib.Algebra.Order.Ring.Nat
import Mathlib.Tactic.MkIffOfInductiveProp

/-!
This module determines which words, joined by single blanks, the shell reads back as they are. No
byte of a text gives more than one byte of a word or one boundary between words, so such words leave
no room for a quote.
-/

namespace NetmonPlugins
namespace Shell

def isSpecial (b : UInt8) : Bool :=
  b = 92 || b = 39 || b = 34 || isTabOrSpace b || isOperator b || isExpansion b

@[mk_iff]
structure Ordinary (text : Bytes) : Prop where
  ne_nil : text ≠ []
  not_special : ∀ b ∈ text, isSpecial b = false
  head_ne : text.head? ≠ some 35

instance : DecidablePred Ordinary := fun text =>
  decidable_of_iff (text ≠ [] ∧ text.all (! isSpecial ·) = true ∧ text.head? ≠ some 35) <| by
    simp [ordinary_iff]

def joinWords (word : Bytes) (words : List Bytes) : Bytes := word ++ words.flatMap (32 :: ·)

@[simp]
theorem letters_bare (text : Bytes) : letters (bare text) = text.map fun b => ⟨b, false⟩ := by
  unfold letters bare
  rw [List.filterMap_map]
  induction text with
  | nil => rfl
  | cons b text ih => simp

@[simp]
theorem map_byte_letters_bare (text : Bytes) : (letters (bare text)).map (·.byte) = text := by
  simp [Function.comp_def]

theorem bare_append (text text' : Bytes) : bare (text ++ text') = bare text ++ bare text' := by
  unfold bare
  rw [List.map_append]

theorem lexStep_of_not_special {s : Lexer} (hmode : s.mode = .plain) {b : UInt8}
    (hspecial : isSpecial b = false) (hcomment : b ≠ 35 ∨ s.word ≠ none)
    : lexStep s b = some (s.put b false .plain) := by
  simp only [isSpecial, Bool.or_eq_false_iff, decide_eq_false_iff_not] at hspecial
  unfold lexStep
  rw [hmode]
  dsimp only
  rw [if_neg hspecial.1.1.1.1.1, if_neg hspecial.1.1.1.1.2, if_neg hspecial.1.1.1.2]
  rw [hspecial.1.1.2, hspecial.1.2, hspecial.2, if_neg, if_neg, if_neg]
  . intro h
    cases hcomment with
    | inl hb => exact hb h.1
    | inr hword => exact hword h.2
  . simp
  . simp

theorem lexStep_blank {s : Lexer} (hmode : s.mode = .plain)
    : lexStep s 32 = some { words := s.all } := by
  unfold lexStep
  rw [hmode]
  rfl

theorem foldlM_bare {text : Bytes} (hspecial : ∀ b ∈ text, isSpecial b = false)
    {words : List Word} {w : Word}
    : text.foldlM lexStep { words := words, word := some w }
        =
      some { words := words, word := some (w ++ bare text) } := by
  induction text generalizing w with
  | nil => simp [bare]
  | cons b text ih =>
    rw [List.foldlM_cons, lexStep_of_not_special rfl (hspecial b List.mem_cons_self)]
    . simp only [Lexer.put, Option.bind_eq_bind, Option.bind_some, Option.getD_some]
      rw [ih]
      . simp [bare]
      . intro b' hb'
        apply hspecial b' (List.mem_cons_of_mem _ hb')
    . right
      simp

theorem foldlM_ordinary {text : Bytes} (h : Ordinary text) (words : List Word)
    : text.foldlM lexStep { words := words }
        =
      some { words := words, word := some (bare text) } := by
  cases text with
  | nil => exact absurd rfl h.ne_nil
  | cons b text =>
    have hb := h.head_ne
    rw [List.head?_cons] at hb
    rw [List.foldlM_cons, lexStep_of_not_special rfl (h.not_special b List.mem_cons_self)]
    . simp only [Lexer.put, Option.bind_eq_bind, Option.bind_some, Option.getD_none]
      rw [foldlM_bare]
      . simp [bare]
      . intro b' hb'
        apply h.not_special b' (List.mem_cons_of_mem _ hb')
    . left
      intro heq
      exact hb (congrArg some heq)

theorem foldlM_flatMap {texts : List Bytes} (h : ∀ text ∈ texts, Ordinary text) {s : Lexer}
    (hmode : s.mode = .plain)
    : ∃ s', (texts.flatMap (32 :: ·)).foldlM lexStep s = some s' ∧ s'.mode = .plain
        ∧ s'.all = s.all ++ texts.map bare := by
  induction texts generalizing s with
  | nil =>
    exists s
    simp [hmode]
  | cons text texts ih =>
    have hwords := foldlM_ordinary (h text List.mem_cons_self) s.all
    obtain ⟨s', hs', hmode', hall⟩ := @ih
      (fun other hother => h other (List.mem_cons_of_mem _ hother))
      { words := s.all, word := some (bare text) } rfl
    exists s'
    constructor
    . rw [List.flatMap_cons, List.cons_append, List.foldlM_cons, lexStep_blank hmode]
      rw [Option.bind_eq_bind, Option.bind_some, List.foldlM_append, hwords]
      exact hs'
    constructor
    . exact hmode'
    . rw [hall]
      simp [Lexer.all]

theorem lex_joinWords {word : Bytes} {words : List Bytes}
    (h : ∀ text ∈ word :: words, Ordinary text)
    : lex (joinWords word words) = some ((word :: words).map bare) := by
  have hword := foldlM_ordinary (h word List.mem_cons_self) []
  obtain ⟨s, hs, hmode, hall⟩ := @foldlM_flatMap words
    (fun text htext => h text (List.mem_cons_of_mem _ htext))
    { word := some (bare word) } rfl
  unfold lex joinWords
  rw [List.foldlM_append, hword]
  simp only [Option.bind_eq_bind, Option.bind_some]
  rw [hs]
  simp only [hmode, true_or, if_true]
  rw [hall]
  rfl

def Lexer.weight (s : Lexer) : Nat :=
  (s.words.map fun w => (letters w).length + 1).sum + (letters (s.word.getD [])).length

def Mode.slack : Mode → Nat
  | .plain => 0
  | .backslash => 1
  | .single => 1
  | .double => 1
  | .doubleBackslash => 2
  | .comment => 1

/-- Where every byte counts, nothing was quoted. -/
structure Inv (n : Nat) (s : Lexer) : Prop where
  weight_le : s.weight + s.mode.slack ≤ n
  tight : s.weight = n → ∀ w ∈ s.all, ∃ text, w = bare text ∧ Ordinary text

@[simp]
theorem weight_put (s : Lexer) (b : UInt8) (quoted : Bool) (mode : Mode)
    : (s.put b quoted mode).weight = s.weight + 1 := by
  unfold Lexer.weight Lexer.put
  simp [letters]
  omega

@[simp]
theorem weight_openQuote (s : Lexer) (mode : Mode) : (s.openQuote mode).weight = s.weight := by
  unfold Lexer.weight Lexer.openQuote
  simp [letters]

@[simp]
theorem mode_put (s : Lexer) (b : UInt8) (quoted : Bool) (mode : Mode)
    : (s.put b quoted mode).mode = mode := rfl

@[simp]
theorem mode_openQuote (s : Lexer) (mode : Mode) : (s.openQuote mode).mode = mode := rfl

@[simp]
theorem weight_mode (s : Lexer) (mode : Mode)
    : ({ s with mode := mode } : Lexer).weight = s.weight := rfl

theorem weight_finish (s : Lexer)
    : ({ words := s.all } : Lexer).weight = s.weight + s.word.toList.length := by
  unfold Lexer.weight Lexer.all
  cases s.word with
  | none => simp [letters]
  | some w =>
    simp [letters]
    omega

theorem Inv.of_lt {n : Nat} {s : Lexer} (h : s.weight + s.mode.slack ≤ n) (hlt : s.weight < n)
    : Inv n s where
  weight_le := h
  tight := by
    intro heq
    omega

theorem Inv.finish {n : Nat} {s : Lexer} (h : Inv n s) (hmode : s.mode = .plain)
    : Inv (n + 1) { words := s.all } := by
  have hle := h.weight_le
  rw [hmode] at hle
  have hweight := weight_finish s
  cases hword : s.word with
  | none =>
    rw [hword] at hweight
    apply Inv.of_lt
    . rw [hweight]
      simp only [Mode.slack, Option.toList_none, List.length_nil] at hle ⊢
      omega
    . rw [hweight]
      simp only [Mode.slack, Option.toList_none, List.length_nil] at hle ⊢
      omega
  | some w =>
    rw [hword] at hweight
    simp only [Option.toList_some, List.length_cons, List.length_nil] at hweight
    constructor
    . rw [hweight]
      simp only [Mode.slack] at hle ⊢
      omega
    . intro heq v hv
      apply h.tight
      . omega
      . simpa [Lexer.all] using hv

theorem Ordinary.snoc {text : Bytes} (h : Ordinary text) {b : UInt8} (hb : isSpecial b = false)
    : Ordinary (text ++ [b]) where
  ne_nil := by simp
  not_special := by
    intro b' hb'
    rw [List.mem_append, List.mem_singleton] at hb'
    cases hb' with
    | inl htext => apply h.not_special b' htext
    | inr heq => rw [heq, hb]
  head_ne := by
    rw [List.head?_append_of_ne_nil _ h.ne_nil]
    exact h.head_ne

theorem Ordinary.singleton {b : UInt8} (hb : isSpecial b = false) (hcomment : b ≠ 35)
    : Ordinary [b] where
  ne_nil := by simp
  not_special := by
    intro b' hb'
    rw [List.mem_singleton] at hb'
    rw [hb', hb]
  head_ne := by
    simp [hcomment]

theorem Inv.put {n : Nat} {s : Lexer} (h : Inv n s) (hmode : s.mode = .plain) {b : UInt8}
    (hspecial : isSpecial b = false) (hcomment : ¬ (b = 35 ∧ s.word = none))
    : Inv (n + 1) (s.put b false .plain) where
  weight_le := by
    have := h.weight_le
    rw [weight_put]
    simp only [Lexer.put, hmode] at this ⊢
    omega
  tight := by
    intro heq w hw
    rw [weight_put] at heq
    have htight := h.tight (by omega)
    simp only [Lexer.put, Lexer.all, Option.toList_some, List.mem_append, List.mem_singleton] at hw
    cases hw with
    | inl hwords =>
      apply htight
      simp only [Lexer.all, List.mem_append]
      left
      exact hwords
    | inr hlast =>
      cases hword : s.word with
      | none =>
        exists [b]
        rw [hlast, hword]
        constructor
        . rfl
        . apply Ordinary.singleton hspecial
          intro hb
          exact hcomment ⟨hb, hword⟩
      | some v =>
        obtain ⟨text, hv, hordinary⟩ := htight v (by simp [Lexer.all, hword])
        exists text ++ [b]
        rw [hlast, hword, bare_append, ← hv]
        constructor
        . rfl
        . apply hordinary.snoc hspecial

/-- An unquoted byte changes the mode, ends the word or is one more letter of it. -/
theorem lexStep_plain_cases {s s' : Lexer} {b : UInt8} (hmode : s.mode = .plain)
    (hstep : lexStep s b = some s')
    : (s'.weight = s.weight ∧ s'.mode.slack = 1)
        ∨
      s' = { words := s.all }
        ∨
      s' = s.put b false .plain ∧ isSpecial b = false ∧ ¬ (b = 35 ∧ s.word = none) := by
  unfold lexStep at hstep
  rw [hmode] at hstep
  dsimp only at hstep
  split at hstep
  . rw [← Option.some.inj hstep]
    left
    simp [Mode.slack]
  . next hbackslash =>
    split at hstep
    . rw [← Option.some.inj hstep]
      left
      simp [Mode.slack]
    . next hsingle =>
      split at hstep
      . rw [← Option.some.inj hstep]
        left
        simp [Mode.slack]
      . next hdouble =>
        split at hstep
        . rw [← Option.some.inj hstep]
          right
          left
          rfl
        . next hblank =>
          split at hstep
          . contradiction
          . next hoperator =>
            split at hstep
            . rw [← Option.some.inj hstep]
              left
              simp [Mode.slack]
            . next hcomment =>
              rw [← Option.some.inj hstep]
              right
              right
              refine ⟨rfl, ?_, hcomment⟩
              simp only [Bool.or_eq_true, not_or, Bool.not_eq_true] at hblank hoperator
              simp [isSpecial, hbackslash, hsingle, hdouble, hblank, hoperator]

theorem Inv.step_plain {n : Nat} {s s' : Lexer} {b : UInt8} (h : Inv n s) (hmode : s.mode = .plain)
    (hstep : lexStep s b = some s')
    : Inv (n + 1) s' := by
  have hle := h.weight_le
  rcases lexStep_plain_cases hmode hstep with ⟨hweight, hslack⟩ | rfl | ⟨rfl, hspecial, hcomment⟩
  . apply Inv.of_lt
    . omega
    . omega
  . apply h.finish hmode
  . apply h.put hmode hspecial hcomment

theorem weight_lexStep {s s' : Lexer} {b : UInt8} (hmode : s.mode ≠ .plain)
    (hstep : lexStep s b = some s')
    : s'.weight + s'.mode.slack ≤ s.weight + s.mode.slack + 1
        ∧
      s'.weight ≤ s.weight + s.mode.slack := by
  unfold lexStep at hstep
  split at hstep
  . contradiction
  . next hbackslash =>
    rw [Option.some.injEq] at hstep
    rw [← hstep, hbackslash]
    split
    . simp [Mode.slack]
      omega
    . simp [Mode.slack]
  . next hsingle =>
    rw [Option.some.injEq] at hstep
    rw [← hstep, hsingle]
    split
    . simp [Mode.slack]
      omega
    . simp [Mode.slack]
  . next hdouble =>
    rw [hdouble]
    split at hstep
    . rw [Option.some.injEq] at hstep
      rw [← hstep]
      simp [Mode.slack]
      omega
    . split at hstep
      . rw [Option.some.injEq] at hstep
        rw [← hstep]
        simp [Mode.slack]
      . split at hstep
        . contradiction
        . rw [Option.some.injEq] at hstep
          rw [← hstep]
          simp [Mode.slack]
  . next hbackslash =>
    rw [hbackslash]
    split at hstep
    . rw [Option.some.injEq] at hstep
      rw [← hstep]
      simp [Mode.slack]
    . split at hstep
      . rw [Option.some.injEq] at hstep
        rw [← hstep]
        simp [Mode.slack]
      . rw [Option.some.injEq] at hstep
        rw [← hstep]
        simp [Mode.slack]
  . next hcomment =>
    split at hstep
    . contradiction
    . rw [Option.some.injEq] at hstep
      rw [← hstep, hcomment]
      simp [Mode.slack]

theorem Inv.step {n : Nat} {s s' : Lexer} {b : UInt8} (h : Inv n s) (hstep : lexStep s b = some s')
    : Inv (n + 1) s' := by
  by_cases hmode : s.mode = .plain
  . apply h.step_plain hmode hstep
  . have hle := h.weight_le
    have ⟨hweight, hlt⟩ := weight_lexStep hmode hstep
    apply Inv.of_lt
    . omega
    . omega

theorem Inv.foldlM {n : Nat} {s s' : Lexer} {text : Bytes} (h : Inv n s)
    (hrun : text.foldlM lexStep s = some s')
    : Inv (n + text.length) s' := by
  induction text generalizing n s with
  | nil =>
    rw [List.foldlM_nil] at hrun
    rw [← Option.some.inj hrun]
    exact h
  | cons b text ih =>
    rw [List.foldlM_cons] at hrun
    obtain ⟨s'', hstep, hrest⟩ := Option.bind_eq_some_iff.mp hrun
    have := ih (h.step hstep) hrest
    rw [List.length_cons]
    rw [Nat.add_right_comm, Nat.add_assoc] at this
    exact this

theorem Inv.init : Inv 0 {} where
  weight_le := by decide
  tight := by
    intro _ w hw
    contradiction

theorem length_joinWords (word : Bytes) (words : List Bytes)
    : (joinWords word words).length + 1 = ((word :: words).map (·.length + 1)).sum := by
  unfold joinWords
  rw [List.length_append, List.length_flatMap, List.map_cons, List.sum_cons, Nat.add_right_comm]
  rfl

theorem ordinary_of_lex_joinWords {word : Bytes} {words : List Bytes} {ws : List Word}
    (hlex : lex (joinWords word words) = some ws)
    (htexts : ws.map (fun w => (letters w).map (·.byte)) = word :: words)
    : ws = (word :: words).map bare ∧ ∀ text ∈ word :: words, Ordinary text := by
  unfold lex at hlex
  split at hlex
  . contradiction
  . next s hrun =>
    have hinv := Inv.init.foldlM hrun
    rw [Nat.zero_add] at hinv
    split at hlex
    . rw [Option.some.injEq] at hlex
      have hweight : s.weight = (joinWords word words).length := by
        have hle := hinv.weight_le
        have hfinish := weight_finish s
        have hsum : ({ words := s.all } : Lexer).weight = (joinWords word words).length + 1 := by
          rw [length_joinWords, ← htexts, ← hlex, List.map_map]
          simp [Lexer.weight, letters, Function.comp_def]
        cases hword : s.word with
        | none =>
          rw [hword, Option.toList_none, List.length_nil] at hfinish
          omega
        | some w =>
          rw [hword, Option.toList_some, List.length_singleton] at hfinish
          omega
      have htight := hinv.tight hweight
      rw [hlex] at htight
      constructor
      . rw [← htexts, List.map_map]
        have hid : ∀ w ∈ ws, id w = (bare ∘ fun w => (letters w).map (·.byte)) w := by
          intro w hw
          obtain ⟨text, hbare, _⟩ := htight w hw
          rw [hbare, Function.comp_apply, map_byte_letters_bare]
          rfl
        rw [← List.map_congr_left hid, List.map_id]
      . intro text htext
        rw [← htexts, List.mem_map] at htext
        obtain ⟨w, hw, hwtext⟩ := htext
        obtain ⟨text', hbare, hordinary⟩ := htight w hw
        rw [hbare, map_byte_letters_bare] at hwtext
        rw [← hwtext]
        exact hordinary
    . contradiction

@[mk_iff]
structure Plain (text : Bytes) : Prop where
  ordinary : Ordinary text
  not_expands : expands (bare text) = false

instance : DecidablePred Plain := fun text => decidable_of_iff _ (plain_iff text).symm

@[mk_iff]
structure NamesCommand (text : Bytes) : Prop where
  not_reserved : isReserved (bare text) = false
  not_assignment : isAssignment (bare text) = false

instance : DecidablePred NamesCommand := fun text =>
  decidable_of_iff _ (namesCommand_iff text).symm

theorem simpleCommand_joinWords_iff (word : Bytes) (words : List Bytes)
    : simpleCommand (joinWords word words) = some (word :: words)
        ↔
      NamesCommand word ∧ ∀ text ∈ word :: words, Plain text := by
  unfold simpleCommand
  constructor
  . intro h
    split at h
    . contradiction
    . contradiction
    . next w ws hlex =>
      split at h
      . contradiction
      . next hfixed =>
        rw [Option.some.injEq] at h
        have ⟨hbare, hordinary⟩ := ordinary_of_lex_joinWords hlex h
        rw [List.map_cons, List.cons.injEq] at hbare
        rw [hbare.1, hbare.2] at hfixed
        simp only [Bool.or_eq_true, not_or, Bool.not_eq_true] at hfixed
        constructor
        . exact ⟨hfixed.1.1, hfixed.1.2⟩
        . intro text htext
          constructor
          . apply hordinary text htext
          . have hnone := hfixed.2
            rw [← List.map_cons, List.any_eq_false] at hnone
            rw [← Bool.not_eq_true]
            apply hnone
            apply List.mem_map_of_mem htext
  . intro h
    have hordinary : ∀ text ∈ word :: words, Ordinary text := by
      intro text htext
      exact (h.2 text htext).ordinary
    have hnone : ((word :: words).map bare).any expands = false := by
      rw [List.any_eq_false]
      intro w hw
      obtain ⟨text, htext, hbare⟩ := List.mem_map.mp hw
      rw [← hbare, Bool.not_eq_true]
      exact (h.2 text htext).not_expands
    rw [List.map_cons] at hnone
    rw [lex_joinWords hordinary, List.map_cons]
    dsimp only
    rw [h.1.not_reserved, h.1.not_assignment, hnone]
    simp [Function.comp_def]

end Shell
end NetmonPlugins

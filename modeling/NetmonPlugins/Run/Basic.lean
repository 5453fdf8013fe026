import Mathlib.Data.List.Induction

/-!
This module contains runs of a step function: `step s a` is the state after the action `a`, or
`none` where the action is not possible. A run may be restricted to steps that meet a condition.
-/

namespace NetmonPlugins

variable {σ : Type u} {α : Type v} {step : σ → α → Option σ} {ok : σ → α → Prop} {init : σ}

inductive Reaches (step : σ → α → Option σ) (ok : σ → α → Prop) (init : σ) : σ → Prop where
  | refl : Reaches step ok init init
  | tail {s s' : σ} (a : α) (hreach : Reaches step ok init s) (hok : ok s a)
      (hstep : step s a = some s') : Reaches step ok init s'

theorem Reaches.invariant {inv : σ → Prop} (hinit : inv init)
    (hpreserved : ∀ s a s', inv s → ok s a → step s a = some s' → inv s')
    {s : σ} (h : Reaches step ok init s)
    : inv s := by
  induction h with
  | refl => exact hinit
  | tail a hreach hok hstep ih => apply hpreserved _ _ _ ih hok hstep

def exec (step : σ → α → Option σ) (s : σ) : List α → Option σ
  | [] => some s
  | a :: as =>
    match step s a with
    | none => none
    | some s' => exec step s' as

theorem exec_concat (s : σ) (as : List α) (a : α)
    : exec step s (as ++ [a]) = (exec step s as).bind fun s' => step s' a := by
  induction as generalizing s with
  | nil =>
    simp only [List.nil_append, exec, Option.bind_some]
    cases step s a <;> rfl
  | cons b as ih =>
    rw [List.cons_append, exec, exec]
    cases step s b with
    | none => rfl
    | some s' => exact ih s'

theorem exec_invariant {inv : List α → σ → Prop} (hinit : inv [] init)
    (hpreserved : ∀ as s a s', inv as s → step s a = some s' → inv (as ++ [a]) s')
    {as : List α} {s : σ} (h : exec step init as = some s)
    : inv as s := by
  induction as using List.reverseRecOn generalizing s with
  | nil =>
    rw [exec, Option.some.injEq] at h
    rw [← h]
    exact hinit
  | append_singleton as a ih =>
    rw [exec_concat, Option.bind_eq_some_iff] at h
    obtain ⟨s', hexec, hstep⟩ := h
    apply hpreserved _ _ _ _ (ih hexec) hstep

/-- Every action of the run meets the condition in the state it is taken in. -/
def Obeys (step : σ → α → Option σ) (ok : σ → α → Prop) (s : σ) : List α → Prop
  | [] => True
  | a :: as =>
    ok s a
      ∧
    match step s a with
    | none => True
    | some s' => Obeys step ok s' as

instance Obeys.decidable [∀ s a, Decidable (ok s a)] (s : σ) (as : List α)
    : Decidable (Obeys step ok s as) :=
  match as with
  | [] => inferInstanceAs (Decidable True)
  | a :: as =>
    have : Decidable (match step s a with | none => True | some s' => Obeys step ok s' as) :=
      match step s a with
      | none => inferInstanceAs (Decidable True)
      | some s' => Obeys.decidable s' as
    inferInstanceAs (Decidable (ok s a ∧ _))

theorem Obeys.of_forall (hok : ∀ s a, ok s a) (s : σ) (as : List α) : Obeys step ok s as := by
  induction as generalizing s with
  | nil => trivial
  | cons a as ih =>
    rw [Obeys]
    refine ⟨hok s a, ?_⟩
    cases step s a with
    | none => trivial
    | some s' => apply ih

theorem Obeys.and {ok' : σ → α → Prop} {s : σ} {as : List α} (h : Obeys step ok s as)
    (h' : Obeys step ok' s as)
    : Obeys step (fun s a => ok s a ∧ ok' s a) s as := by
  induction as generalizing s with
  | nil => trivial
  | cons a as ih =>
    rw [Obeys] at h h' ⊢
    refine ⟨⟨h.1, h'.1⟩, ?_⟩
    cases hstep : step s a with
    | none => trivial
    | some s' =>
      rw [hstep] at h h'
      exact ih h.2 h'.2

theorem Reaches.of_obeys {s s' : σ} (as : List α) (hobeys : Obeys step ok s as)
    (hreach : Reaches step ok init s) (hexec : exec step s as = some s')
    : Reaches step ok init s' := by
  induction as generalizing s with
  | nil =>
    rw [exec, Option.some.injEq] at hexec
    rw [← hexec]
    exact hreach
  | cons a as ih =>
    rw [exec] at hexec
    split at hexec
    . contradiction
    . next hstep =>
      rw [Obeys, hstep] at hobeys
      exact ih hobeys.2 (.tail a hreach hobeys.1 hstep) hexec

theorem Reaches.of_exec {s s' : σ} (as : List α) (hok : ∀ s a, ok s a)
    (hreach : Reaches step ok init s) (hexec : exec step s as = some s')
    : Reaches step ok init s' := by
  apply hreach.of_obeys as _ hexec
  apply Obeys.of_forall hok

end NetmonPlugins

import Mathlib.Data.List.Basic

/-!
This module contains glob patterns over an arbitrary alphabet and the texts they match.
-/

namespace NetmonPlugins
namespace Glob

inductive Item (α : Type _) where
  | literal (a : α)
  | any
  | star

variable {α : Type _}

/-- The pattern matches the text, and `fills` are the texts its stars stand for. -/
inductive Fits : (pat : List (Item α)) → (fills : List (List α)) → (text : List α) → Prop where
  | nil : Fits [] [] []
  | literal (a : α) (h : Fits pat fills text) : Fits (.literal a :: pat) fills (a :: text)
  | any (a : α) (h : Fits pat fills text) : Fits (.any :: pat) fills (a :: text)
  | star (fill : List α) (h : Fits pat fills text)
    : Fits (.star :: pat) (fill :: fills) (fill ++ text)

def Matches (pat : List (Item α)) (text : List α) : Prop := ∃ fills, Fits pat fills text

section

variable {pat : List (Item α)} {fills : List (List α)} {text : List α}

@[simp]
theorem fits_nil : Fits (α := α) [] fills text ↔ fills = [] ∧ text = [] := by
  constructor
  . intro h
    cases h
    exact ⟨rfl, rfl⟩
  . rintro ⟨rfl, rfl⟩
    exact .nil

@[simp]
theorem fits_literal_cons {a b : α}
    : Fits (.literal a :: pat) fills (b :: text) ↔ a = b ∧ Fits pat fills text := by
  constructor
  . intro h
    cases h with
    | literal _ h => exact ⟨rfl, h⟩
  . rintro ⟨rfl, h⟩
    exact .literal a h

@[simp]
theorem fits_any_cons {b : α} : Fits (.any :: pat) fills (b :: text) ↔ Fits pat fills text := by
  constructor
  . intro h
    cases h with
    | any _ h => exact h
  . exact .any b

theorem fits_star
    : Fits (.star :: pat) fills text
        ↔
      ∃ fill fills' text', fills = fill :: fills' ∧ text = fill ++ text' ∧ Fits pat fills' text' := by
  constructor
  . intro h
    cases h with
    | star fill h => exact ⟨fill, _, _, rfl, rfl, h⟩
  . rintro ⟨fill, fills', text', rfl, rfl, h⟩
    exact .star fill h

end

end Glob
end NetmonPlugins

import NetmonPlugins.Plugins.FileCount.Impl
import NetmonPlugins.Posix.Glob

/-!
This module contains the pattern of `check_file_count` as a glob, and the matches that the loop
finds: it takes each star up to the nearest byte that equals the byte behind the star.
-/

namespace NetmonPlugins
namespace FileCountPlugin

open Glob

def item (c : UInt8) : Item UInt8 :=
  if c = 42 then .star else if c = 63 then .any else .literal c

def glob (pat : Bytes) : List (Item UInt8) := pat.map item

/--
What each star stands for ends where the name has the byte behind the star for the first time, and
the star at the end of the pattern does not stand for the empty text.
-/
def Nearest : (pat : Bytes) → (fills : List Bytes) → (filename : Bytes) → Prop
  | [], _, _ => True
  | c :: pat, fills, filename =>
    if c = 42 then
      let fill := fills.headD []
      let rest := filename.drop fill.length
      (match pat with
        | [] => fill ≠ []
        | next :: _ => next ∉ fill ∧ rest.head? = some next)
        ∧ Nearest pat fills.tail rest
    else
      Nearest pat fills filename.tail

theorem glob_cons (c : UInt8) (pat : Bytes) : glob (c :: pat) = item c :: glob pat := rfl

theorem glob_star (pat : Bytes) : glob (42 :: pat) = .star :: glob pat := rfl

theorem fits_glob_self (text : Bytes) (hstar : 42 ∉ text) (hany : 63 ∉ text)
    : Fits (glob text) [] text := by
  induction text with
  | nil => exact .nil
  | cons c text ih =>
    simp only [List.mem_cons, not_or] at hstar hany
    rw [glob_cons]
    unfold item
    rw [if_neg (Ne.symm hstar.1), if_neg (Ne.symm hany.1)]
    exact .literal c (ih hstar.2 hany.2)

theorem fits_of_nil {pat : Bytes} {fills : List Bytes} (hne : pat ≠ [])
    (h : Fits (glob pat) fills []) (hnearest : Nearest pat fills [])
    : False := by
  cases pat with
  | nil => contradiction
  | cons c pat =>
    rw [glob_cons] at h
    unfold item at h
    split at h
    . next hstar =>
      unfold Nearest at hnearest
      rw [if_pos hstar] at hnearest
      obtain ⟨fill, fills', rest, rfl, hrest, h⟩ := fits_star.mp h
      obtain ⟨hnil, -⟩ := List.append_eq_nil_iff.mp hrest.symm
      simp only [hnil] at hnearest
      cases pat with
      | nil => exact hnearest.1 rfl
      | cons next pat => simp at hnearest
    . split at h
      . cases h
      . cases h

theorem nearest_star {next : UInt8} {pat fill filename : Bytes} {fills : List Bytes}
    : Nearest (42 :: next :: pat) (fill :: fills) (fill ++ filename)
        ↔
      (next ∉ fill ∧ filename.head? = some next) ∧ Nearest (next :: pat) fills filename := by
  rw [Nearest, if_pos rfl]
  simp only [List.headD_cons, List.tail_cons, List.drop_left]

theorem nearest_cons {c : UInt8} {pat filename : Bytes} {fills : List Bytes} (h : c ≠ 42)
    : Nearest (c :: pat) fills filename ↔ Nearest pat fills filename.tail := by
  rw [Nearest, if_neg h]

/-- The match that the loop finds, and the only one it can find. -/
theorem matchFrom_iff (pat filename : Bytes)
    : matchFrom pat filename = true
        ↔
      ∃ fills, Fits (glob pat) fills filename ∧ Nearest pat fills filename := by
  fun_induction matchFrom pat filename with
  | case1 filename => simp [glob, Nearest]
  | case2 c pat =>
    simp only [Bool.false_eq_true, false_iff, not_exists, not_and]
    intro fills
    exact fits_of_nil (by simp)
  | case3 b filename =>
    simp only [true_iff]
    refine ⟨[b :: filename], ?_, ?_⟩
    . exact fits_star.mpr ⟨b :: filename, [], [], rfl, by simp, .nil⟩
    . simp [Nearest]
  | case4 b filename next rest hnone =>
    simp only [Bool.false_eq_true, false_iff, not_exists, not_and]
    intro fills h hnearest
    obtain ⟨fill, fills', text, rfl, htext, -⟩ := fits_star.mp h
    rw [htext, nearest_star] at hnearest
    have hmem : next ∈ b :: filename := by
      rw [htext]
      exact List.mem_append_right _ (List.mem_of_mem_head? hnearest.1.2)
    rw [List.dropWhile_eq_nil_iff] at hnone
    simpa using hnone next hmem
  | case5 b filename next rest hfound ih =>
    have hsplit : b :: filename
        = (b :: filename).takeWhile (· ≠ next) ++ (b :: filename).dropWhile (· ≠ next) :=
      List.takeWhile_append_dropWhile.symm
    have hbefore : next ∉ (b :: filename).takeWhile (· ≠ next) := by
      intro hmem
      have hne := List.mem_takeWhile_imp hmem
      simp at hne
    have hhead : ((b :: filename).dropWhile (· ≠ next)).head? = some next := by
      cases hdrop : (b :: filename).dropWhile (· ≠ next) with
      | nil => contradiction
      | cons c text =>
        rw [eq_of_dropWhile_ne hdrop]
        rfl
    rw [ih]
    constructor
    . rintro ⟨fills, h, hnearest⟩
      refine ⟨(b :: filename).takeWhile (· ≠ next) :: fills, ?_, ?_⟩
      . exact fits_star.mpr ⟨_, _, _, rfl, hsplit, h⟩
      . have hnearest := nearest_star.mpr ⟨⟨hbefore, hhead⟩, hnearest⟩
        rwa [← hsplit] at hnearest
    . rintro ⟨fills, h, hnearest⟩
      obtain ⟨fill, fills', text, rfl, htext, h⟩ := fits_star.mp h
      rw [htext, nearest_star] at hnearest
      obtain ⟨⟨hnot, htexthead⟩, hnearest⟩ := hnearest
      have hfill : (b :: filename).dropWhile (· ≠ next) = text := by
        rw [htext]
        apply dropWhile_append_of_head
        . intro c hc
          simp only [ne_eq, decide_eq_true_eq]
          rintro rfl
          exact hnot hc
        . simp [htexthead]
      rw [hfill]
      exact ⟨fills', h, hnearest⟩
  | case6 c pat b filename hstar hmatch ih =>
    rw [ih, glob_cons]
    simp only [nearest_cons hstar, List.tail_cons]
    unfold item
    rw [if_neg hstar]
    split
    . simp
    . next hany => simp [hmatch.resolve_left hany]
  | case7 c pat b filename hstar hmatch =>
    simp only [Bool.false_eq_true, false_iff, not_exists, not_and]
    intro fills h
    rw [not_or] at hmatch
    rw [glob_cons] at h
    unfold item at h
    rw [if_neg hstar, if_neg hmatch.1, fits_literal_cons] at h
    exact absurd h.1 hmatch.2

theorem matches_of_matchFrom {pat filename : Bytes} (h : matchFrom pat filename = true)
    : Matches (glob pat) filename := by
  obtain ⟨fills, hfits, -⟩ := (matchFrom_iff pat filename).mp h
  exact ⟨fills, hfits⟩

theorem matchesPattern_eq_glob_iff (filename pat : Bytes) (hpat : pat ≠ [])
    : (matchesPattern filename pat = true ↔ Matches (glob pat) filename)
        ↔
      (Matches (glob pat) filename
        → ∃ fills, Fits (glob pat) fills filename ∧ Nearest pat fills filename) := by
  unfold matchesPattern
  rw [if_neg hpat]
  constructor
  . intro hclaim hmatches
    exact (matchFrom_iff pat filename).mp (hclaim.mpr hmatches)
  . intro hnearest
    constructor
    . exact matches_of_matchFrom
    . intro hmatches
      exact (matchFrom_iff pat filename).mpr (hnearest hmatches)

theorem matchesPattern_eq_glob_iff_log
    : (matchesPattern (str "web.log") (str "*.log") = true
          ↔ Matches (glob (str "*.log")) (str "web.log"))
        ↔
      (Matches (glob (str "*.log")) (str "web.log")
        → ∃ fills, Fits (glob (str "*.log")) fills (str "web.log")
          ∧ Nearest (str "*.log") fills (str "web.log")) :=
  matchesPattern_eq_glob_iff (str "web.log") (str "*.log") (by decide)

/-- The star takes `web` only, and the second dot meets the `l` of the pattern. -/
theorem matchesPattern_two_dots
    : Matches (glob (str "*.log")) (str "web.1.log")
      ∧ matchesPattern (str "web.1.log") (str "*.log") = false := by
  refine ⟨⟨[str "web.1"], ?_⟩, by decide +kernel⟩
  have hfits := Fits.star (str "web.1") (fits_glob_self (str ".log") (by decide) (by decide))
  have hpat : str "*.log" = 42 :: str ".log" := by decide
  have hname : str "web.1.log" = str "web.1" ++ str ".log" := by decide
  rw [hpat, glob_star, hname]
  exact hfits

end FileCountPlugin
end NetmonPlugins

import NetmonPlugins.Common.JsonUtils.Braces
import NetmonPlugins.Plugins.Kubernetes.Impl

/-!
This module determines what the loop over the items counts in a text, and that it counts the objects
of a list whose brackets do not touch.
-/

namespace NetmonPlugins
namespace KubernetesPlugin

open Json

def depth (text : Bytes) : Int := text.count 123 - text.count 125

/-- A bracket closes here outside of braces, and not as the first byte. -/
def EndsList (text : Bytes) (i : Nat) : Prop :=
  0 < i ∧ text[i]? = some 93 ∧ depth (text.take i) = 0

instance (text : Bytes) (i : Nat) : Decidable (EndsList text i) :=
  inferInstanceAs (Decidable (_ ∧ _))

/-- The brace that closes here leaves none open, and the list has not ended before. -/
def EndsItem (text : Bytes) (i : Nat) : Prop :=
  text[i]? = some 125 ∧ depth (text.take (i + 1)) = 0 ∧ ∀ j ≤ i, ¬ EndsList text j

instance (text : Bytes) (i : Nat) : Decidable (EndsItem text i) :=
  inferInstanceAs (Decidable (_ ∧ _))

def itemEnds (text : Bytes) : Nat := (List.range text.length).countP (EndsItem text ·)

/-- The loop from the test for the end of the list on. -/
def resume (braceCount : Int) (itemCount : Nat) (text : Bytes) : Nat :=
  if text.head? = some 93 ∧ braceCount = 0 then itemCount
  else countItems braceCount itemCount text

theorem depth_cons (c : UInt8) (text : Bytes)
    : depth (c :: text) = depth [c] + depth text := by
  unfold depth
  rw [← List.singleton_append, List.count_append, List.count_append]
  omega

theorem depth_append (text text' : Bytes) : depth (text ++ text') = depth text + depth text' := by
  unfold depth
  rw [List.count_append, List.count_append]
  omega

theorem depth_byte (c : UInt8) : depth [c] = if c = 123 then 1 else if c = 125 then -1 else 0 := by
  split
  . next hopen =>
    rw [hopen]
    rfl
  . next hopen =>
    split
    . next hclose =>
      rw [hclose]
      rfl
    . next hclose => simp [depth, hopen, hclose]

theorem countItems_cons (braceCount : Int) (itemCount : Nat) (c : UInt8) (text : Bytes)
    : countItems braceCount itemCount (c :: text)
        =
      resume (braceCount + depth [c])
        (if c = 125 ∧ braceCount + depth [c] = 0 then itemCount + 1 else itemCount) text := by
  have hdepth : (if c = 123 then braceCount + 1 else if c = 125 then braceCount - 1 else braceCount)
      = braceCount + depth [c] := by
    rw [depth_byte]
    split
    . rfl
    . split
      . rfl
      . rw [Int.add_zero]
  rw [countItems]
  rw [hdepth]
  rfl

section

variable {itemCount : Nat} {text rest : Bytes}

theorem resume_of_depth {braceCount : Int} (h : braceCount ≠ 0)
    : resume braceCount itemCount text = countItems braceCount itemCount text := by
  unfold resume
  rw [if_neg (fun hend => h hend.2)]

theorem resume_of_head (h : text.head? ≠ some 93)
    : resume 0 itemCount text = countItems 0 itemCount text := by
  unfold resume
  rw [if_neg (fun hend => h hend.1)]

theorem resume_closing : resume 0 itemCount (93 :: rest) = itemCount := by
  unfold resume
  rw [if_pos (by simp)]

/-- Nothing is counted and nothing ends while a brace is open. -/
theorem resume_inside {braceCount : Int} (hopen : braceCount ≠ 0)
    (h : ∀ before, before <+: text → braceCount + depth before ≠ 0)
    : resume braceCount itemCount (text ++ rest)
        =
      resume (braceCount + depth text) itemCount rest := by
  induction text generalizing braceCount with
  | nil =>
    have hnil : depth [] = 0 := rfl
    rw [hnil, Int.add_zero, List.nil_append]
  | cons c text ih =>
    have hhead : braceCount + depth [c] ≠ 0 := h [c] (by simp)
    rw [List.cons_append, resume_of_depth hopen, countItems_cons, if_neg (fun hend => hhead hend.2),
      ih hhead, depth_cons c text, Int.add_assoc]
    intro before hbefore
    rw [Int.add_assoc, ← depth_cons]
    apply h
    rw [List.cons_prefix_cons]
    exact ⟨rfl, hbefore⟩

theorem resume_braces (h : IsNested text)
    : resume 0 itemCount (123 :: (text ++ 125 :: rest)) = resume 0 (itemCount + 1) rest := by
  have hopening : (0 : Int) + depth [123] = 1 := rfl
  have hclosing : (1 : Int) + depth [125] = 0 := rfl
  have hinside : ∀ before, before <+: text → (1 : Int) + depth before ≠ 0 := by
    intro before hbefore
    have hle := h.count_le before hbefore
    unfold depth
    omega
  have hdepth : (1 : Int) + depth text = 1 := by
    have heq := h.count_eq
    unfold depth
    omega
  rw [resume_of_head (by simp), countItems_cons, hopening, if_neg (by simp),
    resume_inside (by decide) hinside, hdepth, resume_of_depth (by decide), countItems_cons,
    hclosing, if_pos (by simp)]

theorem resume_skip {skipped : Bytes} (h : ∀ c ∈ skipped, c ≠ 123 ∧ c ≠ 125 ∧ c ≠ 93)
    : resume 0 itemCount (skipped ++ rest) = resume 0 itemCount rest := by
  induction skipped with
  | nil => rfl
  | cons c skipped ih =>
    obtain ⟨hopen, hclose, hend⟩ := h c List.mem_cons_self
    have hdepth : (0 : Int) + depth [c] = 0 := by
      rw [depth_byte, if_neg hopen, if_neg hclose, Int.add_zero]
    rw [List.cons_append, resume_of_head (by simpa using hend), countItems_cons, hdepth,
      if_neg (fun hbrace => hclose hbrace.1)]
    exact ih fun c hc => h c (List.mem_cons_of_mem _ hc)

theorem resume_blank (blank : Blank)
    : resume 0 itemCount (blank.bytes ++ rest) = resume 0 itemCount rest := by
  apply resume_skip
  intro c hc
  refine ⟨?_, ?_, ?_⟩
  . rintro rfl
    exact absurd (blank.blank _ hc) (by decide)
  . rintro rfl
    exact absurd (blank.blank _ hc) (by decide)
  . rintro rfl
    exact absurd (blank.blank _ hc) (by decide)

theorem resume_separator (comma : Blank) (first : Bool)
    : resume 0 itemCount (comma.separator first ++ rest) = resume 0 itemCount rest := by
  cases first with
  | true => rfl
  | false =>
    have htext : comma.separator false ++ rest = comma.bytes ++ ([44] ++ rest) := by
      simp [Blank.separator]
    rw [htext, resume_blank, resume_skip (by simp)]

theorem resume_object {value : ValueNode} (hobject : value.isObject = true)
    (h : ∀ raw ∈ value.strings, IsNested raw.bytes)
    : resume 0 itemCount (value.text true ++ rest) = resume 0 (itemCount + 1) rest := by
  cases value with
  | object members close =>
    have hinside := (isNested_node members true h).append (isNested_blank close)
    have htext : (Node.object members close).text true ++ rest
        = 123 :: ((members.text true ++ close.bytes) ++ 125 :: rest) := by
      simp [Node.text]
    rw [htext, resume_braces hinside]
  | literal atom => contradiction
  | string raw => contradiction
  | array elements close => contradiction

theorem resume_elements (itemCount : Nat) (elements : Node .elements) (first : Bool)
    (hobjects : ∀ object ∈ elements.values, object.isObject = true)
    (h : ∀ raw ∈ elements.strings, IsNested raw.bytes)
    : resume 0 itemCount (elements.text first ++ rest)
        =
      resume 0 (itemCount + elements.values.length) rest := by
  match elements with
  | .noElements => rfl
  | .element comma lead head tail =>
    have htext : (Node.element comma lead head tail).text first ++ rest
        = comma.separator first
          ++ (lead.bytes ++ (head.text true ++ (tail.text false ++ rest))) := by
      simp [Node.text]
    have hhead := hobjects head List.mem_cons_self
    rw [htext, resume_separator, resume_blank,
      resume_object hhead fun raw hraw => h raw (List.mem_append_left _ hraw),
      resume_elements (itemCount + 1) tail false
        (fun object hmem => hobjects object (List.mem_cons_of_mem _ hmem))
        fun raw hraw => h raw (List.mem_append_right _ hraw),
      Node.values, List.length_cons, Nat.add_assoc, Nat.add_comm 1]

end

/-- The loop has counted the items that end before the position. -/
theorem countItems_eq_countP (seen text : Bytes) (itemCount : Nat)
    (h : ∀ j ≤ seen.length, ¬ EndsList (seen ++ text) j)
    : countItems (depth seen) itemCount text
        =
      itemCount
        + (List.range' seen.length text.length).countP (EndsItem (seen ++ text) ·) := by
  induction text generalizing seen itemCount with
  | nil => rfl
  | cons c text ih =>
    have hseen : seen ++ c :: text = (seen ++ [c]) ++ text := by simp
    have hdepth : depth seen + depth [c] = depth (seen ++ [c]) := (depth_append _ _).symm
    have htake : (seen ++ c :: text).take (seen.length + 1) = seen ++ [c] := by
      rw [hseen, List.take_left' (by simp)]
    have hitem : EndsItem (seen ++ c :: text) seen.length
        ↔ c = 125 ∧ depth (seen ++ [c]) = 0 := by
      unfold EndsItem
      rw [htake, List.getElem?_append_right (Nat.le_refl _), Nat.sub_self, List.getElem?_cons_zero,
        Option.some.injEq]
      exact and_congr_right fun _ => and_iff_left h
    have hcount : (if c = 125 ∧ depth (seen ++ [c]) = 0 then itemCount + 1 else itemCount)
        = itemCount + if EndsItem (seen ++ c :: text) seen.length then 1 else 0 := by
      simp only [hitem]
      split
      . rfl
      . rfl
    rw [countItems_cons, hdepth, hcount, List.length_cons, List.range'_succ, List.countP_cons]
    unfold resume
    split
    . next hend =>
      have hlist : EndsList (seen ++ c :: text) (seen.length + 1) := by
        refine ⟨Nat.succ_pos _, ?_, by rw [htake, hend.2]⟩
        rw [hseen, List.getElem?_append_right (by simp)]
        simpa [List.head?_eq_getElem?] using hend.1
      -- The list ends behind this byte, and no item ends after that.
      have hnone : (List.range' (seen.length + 1) text.length).countP
          (EndsItem (seen ++ c :: text) ·) = 0 := by
        rw [List.countP_eq_zero]
        intro i hi hitem
        rw [decide_eq_true_eq] at hitem
        exact hitem.2.2 _ (List.mem_range'_1.mp hi).1 hlist
      rw [hnone, Nat.zero_add]
      simp
    . next hend =>
      have hlist : ¬ EndsList (seen ++ c :: text) (seen.length + 1) := by
        rintro ⟨_, hclosing, hbraces⟩
        apply hend
        rw [htake] at hbraces
        rw [hseen, List.getElem?_append_right (by simp)] at hclosing
        exact ⟨by simpa [List.head?_eq_getElem?] using hclosing, hbraces⟩
      rw [ih (seen ++ [c]), ← hseen, List.length_append, List.length_singleton]
      . simp only [decide_eq_true_eq]
        omega
      . intro j hj
        rw [← hseen]
        rcases Nat.lt_or_eq_of_le hj with hlt | rfl
        . apply h
          simp at hlt
          omega
        . simpa using hlist

theorem countItems_eq_itemEnds (text : Bytes) : countItems 0 0 text = itemEnds text := by
  have hstart : ∀ j ≤ ([] : Bytes).length, ¬ EndsList ([] ++ text) j := by
    intro j hj hend
    exact absurd hend.1 (by simpa using hj)
  have hcount := countItems_eq_countP [] text 0 hstart
  rw [Nat.zero_add] at hcount
  unfold itemEnds
  rw [List.range_eq_range']
  exact hcount

end KubernetesPlugin
end NetmonPlugins

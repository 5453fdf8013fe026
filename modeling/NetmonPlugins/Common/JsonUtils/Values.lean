import NetmonPlugins.Common.JsonUtils.Members

/-!
This module contains the values that the patterns of the JSON lookups recognise, and what the
lookups return for a key of a document.
-/

namespace NetmonPlugins

open Regex Json

def quotedTail : List Item := literal (str "\"") ++ quotedGroup

def isValueByte (b : UInt8) : Bool := b ≠ 44 && b ≠ 125

def bareTail : List Item := [.openGroup, .one isValueByte, .many isValueByte, .closeGroup]

def braceTail : List Item := literal (str "\x7b")

def hasKeyTail : List Item := .many isSpace :: literal (str ":")

/-- What is read of a string: its content up to the first quote in it. -/
def Json.Raw.visible (raw : Raw) : Bytes := raw.bytes.takeWhile (· ≠ 34)

section

variable {tail : List Item}

theorem matchHere_colon (blank : Blank) {s : Bytes} (hs : ∀ c ∈ s.head?, isSpace c = false)
    (m : Match)
    : matchHere (.many isSpace :: (literal (str ":") ++ tail)) (blank.bytes ++ s) m
        =
      matchHere (literal (str ":") ++ tail) s (m.pushAll blank.bytes) := by
  apply manyThen_append (fun c hc => isSpace_of_isBlank (blank.blank c hc)) hs
  right
  intro c rest m hc
  apply matchHere_literal_of_not_isPrefix
  intro hpre
  have heq := (List.cons_prefix_cons.mp hpre).1
  rw [← heq] at hc
  revert hc
  decide

theorem matchHere_colon_of_ends {rest : Bytes} (hrest : EndsValue rest) (m : Match)
    : matchHere (.many isSpace :: (literal (str ":") ++ tail)) rest m = none := by
  obtain ⟨blank, s, rfl, hs⟩ := hrest
  rw [matchHere_colon blank]
  . apply matchHere_literal_of_not_isPrefix
    intro hpre
    cases s with
    | nil => simp [str] at hpre
    | cons c s =>
      have heq : 58 = c := (List.cons_prefix_cons.mp hpre).1
      have hc := hs c rfl
      rw [← heq] at hc
      revert hc
      decide
  . intro c hc
    obtain rfl | rfl | rfl := hs c hc
    . rfl
    . rfl
    . rfl

theorem matchHere_behindName (colon space : Blank) (text : Bytes) (m : Match)
    : matchHere (.many isSpace :: (literal (str ":") ++ tail)) (behindName colon space text) m
        =
      matchHere tail (space.bytes ++ text) (m.pushAll (colon.bytes ++ [58])) := by
  unfold behindName
  rw [matchHere_colon colon (by simp [isSpace]), Match.pushAll_append]
  apply matchHere_literal (str ":")

theorem recognises_hasKeyTail : Recognises hasKeyTail (fun _ => true) where
  eq_none := by
    intro rest m hrest
    unfold hasKeyTail
    rw [← List.append_nil (literal (str ":")), matchHere_colon_of_ends hrest]
  isSome_eq := by
    intro colon space value after m _
    unfold hasKeyTail
    rw [← List.append_nil (literal (str ":")), matchHere_behindName]
    rfl

theorem isValueByte_of_ne {c : UInt8} (hcomma : c ≠ 44) (hbrace : c ≠ 125)
    : isValueByte c = true := by
  simp [isValueByte, hcomma, hbrace]

theorem isValueByte_of_isLiteralByte {c : UInt8} (h : isLiteralByte c = true)
    : isValueByte c = true := by
  apply isValueByte_of_ne
  . rintro rfl
    contradiction
  . rintro rfl
    contradiction

theorem isSpace_of_isLiteralByte {c : UInt8} (h : isLiteralByte c = true) : isSpace c = false := by
  unfold isLiteralByte at h
  unfold isSpace
  grind

/-- A value begins with the byte that tells its kind. -/
theorem head_of_text (value : ValueNode)
    : ∃ c s, value.text true = c :: s ∧ isValueByte c = true ∧ isSpace c = false
        ∧ (c = 34 ↔ ∃ raw, value = .string raw) ∧ (c = 123 ↔ value.isObject = true) := by
  cases value with
  | literal atom =>
    obtain ⟨c, bytes, hbytes⟩ := List.exists_cons_of_ne_nil atom.ne_nil
    have hplain := atom.plain c (by simp [hbytes])
    refine ⟨c, bytes, hbytes, isValueByte_of_isLiteralByte hplain, isSpace_of_isLiteralByte hplain,
      ?_, ?_⟩
    . apply iff_of_false
      . rintro rfl
        contradiction
      . simp
    . apply iff_of_false _ Bool.false_ne_true
      rintro rfl
      contradiction
  | string raw =>
    exact ⟨34, _, rfl, rfl, rfl, iff_of_true rfl ⟨raw, rfl⟩,
      iff_of_false (by decide) Bool.false_ne_true⟩
  | array elements close =>
    exact ⟨91, _, rfl, rfl, rfl, iff_of_false (by decide) (by simp),
      iff_of_false (by decide) Bool.false_ne_true⟩
  | object members close =>
    exact ⟨123, _, rfl, rfl, rfl, iff_of_false (by decide) (by simp), iff_of_true rfl rfl⟩

theorem isSpace_head_text (value : ValueNode) (after : Bytes)
    : ∀ c ∈ (value.text true ++ after).head?, isSpace c = false := by
  obtain ⟨b, s, htext, _, hspace, _⟩ := head_of_text value
  intro c hc
  rw [htext, List.cons_append, List.head?_cons, Option.mem_some] at hc
  rw [← hc, hspace]

theorem matchHere_behindName_of_head (before space : Blank) {text : Bytes}
    (hhead : ∀ c ∈ text.head?, isSpace c = false)
    (hgreedy : (∀ m, (matchHere tail text m).isSome = true)
      ∨ ∀ c rest m, isSpace c = true → matchHere tail (c :: rest) m = none)
    (m : Match)
    : matchHere (colon ++ tail) (behindName before space text) m
        =
      matchHere tail text ((m.pushAll (before.bytes ++ [58])).pushAll space.bytes) := by
  refine (matchHere_behindName before space text m).trans ?_
  apply manyThen_append (fun c hc => isSpace_of_isBlank (space.blank c hc)) hhead
  exact hgreedy.imp_left fun hall => hall _

/-- The end of a pattern matches the values of one kind. -/
structure Matches (tail : List Item) (kind : ValueNode → Bool) : Prop where
  isSome_eq : ∀ (value : ValueNode) (after : Bytes) (m : Match),
    (matchHere tail (value.text true ++ after) m).isSome = kind value
  greedy : (∀ value, kind value = true)
    ∨ ∀ c rest m, isSpace c = true → matchHere tail (c :: rest) m = none

theorem Matches.behindName {kind : ValueNode → Bool} (h : Matches tail kind) (before space : Blank)
    (value : ValueNode) (after : Bytes) (m : Match)
    : matchHere (colon ++ tail) (behindName before space (value.text true ++ after)) m
        =
      matchHere tail (value.text true ++ after)
        ((m.pushAll (before.bytes ++ [58])).pushAll space.bytes) := by
  apply matchHere_behindName_of_head before space (isSpace_head_text value after)
  exact h.greedy.imp_left fun hall m => (h.isSome_eq value after m).trans (hall value)

theorem Matches.recognises {kind : ValueNode → Bool} (h : Matches tail kind)
    : Recognises (colon ++ tail) kind where
  eq_none := by
    intro rest m hrest
    exact matchHere_colon_of_ends hrest m
  isSome_eq := by
    intro before space value after m _
    rw [h.behindName, h.isSome_eq]

end

theorem not_isSpace_literal {c : UInt8} (hc : isSpace c = false) (items : List Item)
    : ∀ b rest m, isSpace b = true → matchHere (.one (· = c) :: items) (b :: rest) m = none := by
  intro b rest m hb
  apply matchHere_one_of_ne
  rintro rfl
  rw [hb] at hc
  contradiction

theorem takeWhile_visible (raw : Raw) (s : Bytes)
    : (raw.bytes ++ 34 :: s).takeWhile (· ≠ 34) = raw.visible :=
  takeWhile_append_of_stop (by decide) _ _

theorem visible_ne_nil {raw : Raw} (h : raw.bytes ≠ []) : raw.visible ≠ [] := by
  obtain ⟨c, bytes, hbytes⟩ := List.exists_cons_of_ne_nil h
  have hc : c ≠ 34 := by
    rintro rfl
    have hescaped := raw.escaped
    rw [hbytes] at hescaped
    obtain ⟨before, hbefore⟩ :=
      backslash_of_isEscaped (show isEscaped ([] ++ 34 :: bytes) = true from hescaped)
    simp at hbefore
  unfold Raw.visible
  rw [hbytes, List.takeWhile_cons_of_pos (by simp [hc])]
  simp

theorem visible_of_notMem {raw : Raw} (h : (34 : UInt8) ∉ raw.bytes) : raw.visible = raw.bytes := by
  unfold Raw.visible
  rw [List.takeWhile_eq_self_iff]
  intro c hc
  rw [decide_eq_true_eq]
  exact ne_of_mem_of_not_mem hc h

theorem exists_dropWhile_quote {text : Bytes} (hquote : (34 : UInt8) ∈ text)
    : ∃ z, text.dropWhile (· ≠ 34) = 34 :: z := by
  cases hdrop : text.dropWhile (· ≠ 34) with
  | nil =>
    rw [List.dropWhile_eq_nil_iff] at hdrop
    have hall := hdrop 34 hquote
    contradiction
  | cons d z =>
    have hd : d = 34 := eq_of_dropWhile_ne hdrop
    exact ⟨z, by rw [hd]⟩

theorem matchHere_quotedGroup_of_notMem {text : Bytes} (hquote : (34 : UInt8) ∉ text) (m : Match)
    : matchHere quotedGroup text m = none := by
  cases text with
  | nil => rfl
  | cons c text =>
    rw [Option.eq_none_iff_forall_not_mem]
    intro m' hm'
    change (if decide (c ≠ 34) then
        manyThen (· ≠ 34) (matchHere (.closeGroup :: literal (str "\""))) text _
      else
        none) = _ at hm'
    split at hm'
    . obtain ⟨run, rest, htext, _, hm'⟩ := exists_of_manyThen hm'
      rw [← List.append_nil (literal (str "\""))] at hm'
      obtain ⟨after, hrest, _⟩ := exists_of_matchHere_literal hm'
      rw [htext, hrest] at hquote
      simp [str] at hquote
    . contradiction

theorem matchHere_quotedGroup {text : Bytes} (hquote : (34 : UInt8) ∈ text)
    (hne : text.takeWhile (· ≠ 34) ≠ []) (m : Match)
    : matchHere quotedGroup text m
        =
      some (({ ({ m with inGroup := true }.pushAll (text.takeWhile (· ≠ 34))) with inGroup := false
        } : Match).push 34) := by
  obtain ⟨z, hz⟩ := exists_dropWhile_quote hquote
  cases text with
  | nil => contradiction
  | cons c text =>
    by_cases hc : c = 34
    . rw [hc] at hne
      contradiction
    . have htake : (c :: text).takeWhile (· ≠ 34) = c :: text.takeWhile (· ≠ 34) := by simp [hc]
      have hdrop : (c :: text).dropWhile (· ≠ 34) = text.dropWhile (· ≠ 34) := by simp [hc]
      rw [hdrop] at hz
      rw [htake]
      show (if decide (c ≠ 34) then
          manyThen (· ≠ 34) (matchHere (.closeGroup :: literal (str "\""))) text _
        else
          none) = _
      rw [decide_eq_true hc, if_pos rfl, manyThen_eq, hz]
      . rfl
      . left
        rw [hz]
        rfl

theorem matchHere_quotedTail (raw : Raw) (s : Bytes) (m : Match)
    : matchHere quotedTail (quoted raw.bytes ++ s) m
        =
      if raw.bytes = [] then
        none
      else
        some (({ ({ m.push 34 with inGroup := true }.pushAll raw.visible) with inGroup := false
          } : Match).push 34) := by
  have hopening : matchHere quotedTail (quoted raw.bytes ++ s) m
      =
    matchHere quotedGroup (raw.bytes ++ 34 :: s) (m.push 34) := by
    simp [quoted, quotedTail, literal, str, matchHere]
  rw [hopening]
  split
  . next hnil =>
    rw [hnil]
    rfl
  . next hne =>
    have hvisible := takeWhile_visible raw s
    rw [matchHere_quotedGroup (by simp), hvisible]
    rw [hvisible]
    exact visible_ne_nil hne

theorem matches_quotedTail : Matches quotedTail Node.isFilled where
  isSome_eq := by
    intro value after m
    obtain ⟨c, s, htext, _, _, hstring, _⟩ := head_of_text value
    by_cases hc : c = 34
    . obtain ⟨raw, rfl⟩ := hstring.mp hc
      rw [Node.text, matchHere_quotedTail]
      unfold Node.isFilled
      split
      . next hnil => simp [hnil]
      . next hne => simp [hne]
    . have hnot : value.isFilled = false := by
        cases value with
        | string raw => exact absurd (hstring.mpr ⟨raw, rfl⟩) hc
        | literal atom => rfl
        | array elements close => rfl
        | object members close => rfl
      rw [htext, hnot]
      show (matchHere (.one (· = 34) :: quotedGroup) (c :: (s ++ after)) m).isSome = false
      rw [matchHere_one_of_ne hc]
      rfl
  greedy := .inr (not_isSpace_literal (by decide) _)

theorem takeWhile_text_ne_nil (value : ValueNode) (after : Bytes)
    : (value.text true ++ after).takeWhile isValueByte ≠ [] := by
  obtain ⟨c, s, htext, hvalue, _⟩ := head_of_text value
  rw [htext, List.cons_append, List.takeWhile_cons_of_pos hvalue]
  simp

theorem matches_bareTail : Matches bareTail (fun _ => true) where
  isSome_eq := by
    intro value after m
    unfold bareTail
    rw [matchHere_run (takeWhile_text_ne_nil value after)]
    rfl
  greedy := .inl fun _ => rfl

theorem matches_braceTail : Matches braceTail Node.isObject where
  isSome_eq := by
    intro value after m
    obtain ⟨c, s, htext, _, _, _, hobject⟩ := head_of_text value
    rw [htext]
    show (matchHere [.one (· = 123)] (c :: (s ++ after)) m).isSome = _
    by_cases hc : c = 123
    . rw [hobject.mp hc, hc]
      rfl
    . rw [matchHere_one_of_ne hc]
      cases hkind : value.isObject with
      | true => exact absurd (hobject.mpr hkind) hc
      | false => rfl
  greedy := .inr (not_isSpace_literal (by decide) _)

end NetmonPlugins

import NetmonPlugins.Common.JsonUtils.Impl
import NetmonPlugins.Cxx.Regex.Lemmas

/-!
This module contains what a text has to say for `extractJsonValue` to return a value.
-/

namespace NetmonPlugins

open Regex

def quote (text : Bytes) : Bytes := str "\"" ++ text ++ str "\""

/-- The text begins with a name and a colon, and the rest follows them. -/
def Opens (key rest text : Bytes) : Prop :=
  ∃ space space', (∀ c ∈ space, isSpace c = true) ∧ (∀ c ∈ space', isSpace c = true)
    ∧ text = quote key ++ space ++ str ":" ++ space' ++ rest

/-- A bare value ends before a comma, a closing brace or the end of the text. -/
def BeginsWith (value rest : Bytes) : Prop :=
  quote value <+: rest
    ∨ ∃ space after, rest = value ++ space ++ after ∧ (∀ c ∈ space, isSpace c = true)
        ∧ ∀ c ∈ after.head?, c = 44 ∨ c = 125

/-- Somewhere in the body a member of this name has this value. -/
def States (body key value : Bytes) : Prop :=
  ∃ before text rest, body = before ++ text ∧ Opens key rest text ∧ BeginsWith value rest

theorem quotedKey_of_notMem {key : Bytes} (h : (46 : UInt8) ∉ key)
    : quotedKey key = literal (quote key) := by
  have hkey : key.map (fun c => if c = 46 then Item.one (fun b => b ≠ 10 && b ≠ 13)
        else .one (· = c))
      =
      literal key := by
    unfold literal
    apply List.map_congr_left
    intro c hc
    rw [if_neg (ne_of_mem_of_not_mem hc h)]
  unfold quotedKey quote
  rw [hkey]
  simp [literal]

theorem exists_of_matchHere_member {key s : Bytes} {tail : List Item} {m m' : Match}
    (hkey : (46 : UInt8) ∉ key) (h : matchHere (quotedKey key ++ colon ++ tail) s m = some m')
    : ∃ rest text, Opens key rest s ∧ matchHere tail rest (m.pushAll text) = some m' := by
  rw [quotedKey_of_notMem hkey, List.append_assoc] at h
  obtain ⟨afterKey, hs, h⟩ := exists_of_matchHere_literal h
  change manyThen isSpace (matchHere (literal (str ":") ++ (.many isSpace :: tail))) afterKey _ = _
    at h
  obtain ⟨space, beforeColon, hafterKey, hspace, h⟩ := exists_of_manyThen h
  obtain ⟨afterColon, hbeforeColon, h⟩ := exists_of_matchHere_literal h
  change manyThen isSpace (matchHere tail) afterColon _ = _ at h
  obtain ⟨space', rest, hafterColon, hspace', h⟩ := exists_of_manyThen h
  refine ⟨rest, quote key ++ space ++ str ":" ++ space', ⟨space, space', hspace, hspace', ?_⟩, ?_⟩
  . rw [hs, hafterKey, hbeforeColon, hafterColon]
    simp only [List.append_assoc]
  . simp only [Match.pushAll_append]
    exact h

theorem exists_trim (text : Bytes)
    : ∃ lead trail, text = lead ++ trim text ++ trail
        ∧ (∀ c ∈ lead, isTrimmed c = true) ∧ ∀ c ∈ trail, isTrimmed c = true := by
  refine ⟨text.takeWhile isTrimmed, ((text.dropWhile isTrimmed).reverse.takeWhile isTrimmed).reverse,
    ?_, ?_, ?_⟩
  . unfold trim
    rw [List.append_assoc, ← List.reverse_append, List.takeWhile_append_dropWhile,
      List.reverse_reverse, List.takeWhile_append_dropWhile]
  . intro c hc
    exact List.mem_takeWhile_imp hc
  . intro c hc
    rw [List.mem_reverse] at hc
    exact List.mem_takeWhile_imp hc

theorem isSpace_of_isTrimmed {c : UInt8} (h : isTrimmed c = true) : isSpace c = true := by
  unfold isTrimmed at h
  unfold isSpace
  simp only [Bool.or_eq_true, decide_eq_true_eq] at h
  obtain ((h | h) | h) | h := h
  . rw [h]
    decide
  . rw [h]
    decide
  . rw [h]
    decide
  . rw [h]
    decide

theorem isTrimmed_of_isSpace_eq_false {c : UInt8} (h : isSpace c = false)
    : isTrimmed c = false := by
  rw [Bool.eq_false_iff]
  intro htrimmed
  rw [isSpace_of_isTrimmed htrimmed] at h
  contradiction

theorem beginsWith_trim (rest : Bytes)
    : ∃ lead, (∀ c ∈ lead, isSpace c = true)
        ∧ ∃ after, rest = lead ++ after
          ∧ BeginsWith (trim (rest.takeWhile fun b => b ≠ 44 && b ≠ 125)) after := by
  let run := rest.takeWhile fun b => b ≠ 44 && b ≠ 125
  let after := rest.dropWhile fun b => b ≠ 44 && b ≠ 125
  obtain ⟨lead, trail, hrun, hlead, htrail⟩ := exists_trim run
  refine ⟨lead, fun c hc => isSpace_of_isTrimmed (hlead c hc), trim run ++ trail ++ after, ?_, ?_⟩
  . rw [← List.append_assoc, ← List.append_assoc, ← hrun, List.takeWhile_append_dropWhile]
  . right
    refine ⟨trail, after, rfl, fun c hc => isSpace_of_isTrimmed (htrail c hc), ?_⟩
    intro c hc
    have hstop := head_dropWhile rest c hc
    simp only [ne_eq, Bool.and_eq_false_iff, decide_eq_false_iff_not, not_not] at hstop
    exact hstop

theorem Opens.of_append {key rest text lead after : Bytes} (h : Opens key rest text)
    (hlead : ∀ c ∈ lead, isSpace c = true) (hrest : rest = lead ++ after)
    : Opens key after text := by
  obtain ⟨space, space', hspace, hspace', htext⟩ := h
  refine ⟨space, space' ++ lead, hspace, ?_, ?_⟩
  . rw [List.forall_mem_append]
    exact ⟨hspace', hlead⟩
  . rw [htext, hrest]
    simp only [List.append_assoc]

def quotedGroup : List Item :=
  [.openGroup, .one (· ≠ 34), .many (· ≠ 34), .closeGroup] ++ literal (str "\"")

theorem exists_of_matchHere_quotedGroup {s : Bytes} {m m' : Match} (hm : m.group = [])
    (h : matchHere quotedGroup s m = some m')
    : ∃ after, s = m'.group ++ str "\"" ++ after := by
  cases s with
  | nil => contradiction
  | cons c s =>
    change (if decide (c ≠ 34) then
        manyThen (· ≠ 34) (matchHere (.closeGroup :: literal (str "\""))) s _
      else
        none) = _ at h
    split at h
    . obtain ⟨run, rest, hs, _, h⟩ := exists_of_manyThen h
      rw [← List.append_nil (literal (str "\""))] at h
      obtain ⟨after, hrest, h⟩ := exists_of_matchHere_literal h
      injection h with h
      exists after
      rw [← h, hs, hrest]
      simp [Match.push, hm]
    . contradiction

theorem states_of_extractJsonValue {body key : Bytes} (hkey : (46 : UInt8) ∉ key)
    (h : extractJsonValue body key ≠ [])
    : States body key (extractJsonValue body key) := by
  revert h
  unfold extractJsonValue
  dsimp only
  split
  . next m hsearch =>
    intro _
    obtain ⟨before, text, hbody, _, hmatch⟩ := exists_of_search hsearch
    have hpattern : quotedKey key ++ colon ++ literal (str "\"")
          ++ [.openGroup, .one (· ≠ 34), .many (· ≠ 34), .closeGroup] ++ literal (str "\"")
        =
      quotedKey key ++ colon ++ (literal (str "\"") ++ quotedGroup) := by
      simp only [quotedGroup, List.append_assoc]
    rw [hpattern] at hmatch
    obtain ⟨rest, prior, hopens, hmatch⟩ := exists_of_matchHere_member hkey hmatch
    obtain ⟨rest', hrest, hmatch⟩ := exists_of_matchHere_literal hmatch
    obtain ⟨after, hrest'⟩ := exists_of_matchHere_quotedGroup (by simp) hmatch
    refine ⟨before, text, rest, hbody, hopens, .inl ?_⟩
    rw [hrest, hrest']
    unfold quote
    simp only [← List.append_assoc]
    apply List.prefix_append
  . split
    . next m hsearch =>
      intro _
      obtain ⟨before, text, hbody, _, hmatch⟩ := exists_of_search hsearch
      obtain ⟨rest, prior, hopens, hmatch⟩ := exists_of_matchHere_member hkey hmatch
      rw [group_of_matchHere_run (by simp) hmatch]
      obtain ⟨lead, hlead, after, hrest, hvalue⟩ := beginsWith_trim rest
      exact ⟨before, text, after, hbody, hopens.of_append hlead hrest, hvalue⟩
    . intro h
      contradiction

end NetmonPlugins

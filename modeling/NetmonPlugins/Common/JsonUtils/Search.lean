import NetmonPlugins.Common.JsonUtils.States
import NetmonPlugins.Rfc.JsonText

/-!
This module contains where the searches for a quoted key find a match in a JSON text and where they
find none: only at the end of a string that reads the key.
-/

namespace NetmonPlugins

open Regex Json

def isIdentifierByte (c : UInt8) : Bool :=
  (48 ≤ c && c ≤ 57) || (65 ≤ c && c ≤ 90) || (97 ≤ c && c ≤ 122) || c = 95

structure IsIdentifier (key : Bytes) : Prop where
  ne_nil : key ≠ []
  plain : ∀ c ∈ key, isIdentifierByte c = true

instance (key : Bytes) : Decidable (IsIdentifier key) :=
  decidable_of_iff (key ≠ [] ∧ key.all isIdentifierByte = true)
    ⟨fun h => ⟨h.1, List.all_eq_true.mp h.2⟩, fun h => ⟨h.ne_nil, List.all_eq_true.mpr h.plain⟩⟩

def memberPattern (key : Bytes) (tail : List Item) : List Item := quotedKey key ++ colon ++ tail

theorem isSpace_of_isBlank {c : UInt8} (h : isBlank c = true) : isSpace c = true :=
  isSpace_of_isTrimmed h

theorem IsIdentifier.notMem {key : Bytes} (hkey : IsIdentifier key) {c : UInt8}
    (hc : isIdentifierByte c = false)
    : c ∉ key := by
  intro hmem
  rw [hkey.plain c hmem] at hc
  contradiction

/-- The patterns of the JSON lookups begin with the quoted key. -/
def keyPattern (key : Bytes) (items : List Item) : List Item := literal (quote key) ++ items

section

variable {key : Bytes} {items : List Item}

theorem memberPattern_eq (hkey : IsIdentifier key) (tail : List Item)
    : memberPattern key tail = keyPattern key (colon ++ tail) := by
  unfold memberPattern keyPattern
  rw [quotedKey_of_notMem (hkey.notMem (by decide)), List.append_assoc]

theorem matchHere_keyPattern_of_ne {c : UInt8} (hc : c ≠ 34) (s : Bytes)
    : matchHere (keyPattern key items) (c :: s) {} = none := by
  apply matchHere_literal_of_not_isPrefix
  intro hpre
  exact hc (List.cons_prefix_cons.mp hpre).1.symm

theorem searchFrom_skip {skipped : Bytes} (h : (34 : UInt8) ∉ skipped) (s : Bytes) (pos : Nat)
    : searchFrom (keyPattern key items) (skipped ++ s) pos
        =
      searchFrom (keyPattern key items) s (pos + skipped.length) := by
  induction skipped generalizing pos with
  | nil => rfl
  | cons c skipped ih =>
    rw [List.mem_cons, not_or] at h
    rw [List.cons_append, searchFrom_cons_of_none (matchHere_keyPattern_of_ne (Ne.symm h.1) _),
      ih h.2, List.length_cons]
    congr 1
    omega

theorem takeWhile_append_of_stop {p : UInt8 → Bool} {c : UInt8} (hc : p c = false)
    (run rest : Bytes)
    : (run ++ (c :: rest)).takeWhile p = run.takeWhile p := by
  induction run with
  | nil => simp [hc]
  | cons b run ih =>
    rw [List.cons_append, List.takeWhile_cons, List.takeWhile_cons, ih]

/-- No quote inside of a string closes a key, because a backslash stands in front of it. -/
theorem not_key_quote_isSuffix (hkey : IsIdentifier key) (raw : Raw) {after : Bytes}
    : ¬ key ++ 34 :: after <:+ raw.bytes := by
  rintro ⟨before, hraw⟩
  have hescaped := raw.escaped
  rw [← hraw, ← List.append_assoc] at hescaped
  obtain ⟨before', hbefore'⟩ := backslash_of_isEscaped hescaped
  have hlast : key.getLast? = some 92 := by
    have hboth := congrArg List.getLast? hbefore'
    rw [List.getLast?_append_of_ne_nil _ hkey.ne_nil, List.getLast?_concat] at hboth
    exact hboth
  exact hkey.notMem (by decide) (List.mem_of_getLast? hlast)

theorem suffix_of_cons_suffix_cons {c d : UInt8} {part text : Bytes} (h : c :: part <:+ d :: text)
    : part <:+ text := by
  rw [List.suffix_cons_iff] at h
  rcases h with heq | hsuffix
  . rw [(List.cons.inj heq).2]
  . exact (List.suffix_cons c part).trans hsuffix

/-- In the rest of a string the key is found only where it is all of the rest. -/
theorem eq_of_quote_isPrefix (hkey : IsIdentifier key) {raw : Raw} {part s : Bytes}
    (hpart : part <:+ 34 :: raw.bytes) (hne : part ≠ []) (h : quote key <+: part ++ 34 :: s)
    : part = 34 :: key := by
  cases part with
  | nil => contradiction
  | cons c part =>
    change 34 :: (key ++ [34]) <+: c :: (part ++ 34 :: s) at h
    obtain ⟨hc, hkeyPart⟩ := List.cons_prefix_cons.mp h
    obtain ⟨after, hafter⟩ := hkeyPart
    change (key ++ [34]) ++ after = part ++ 34 :: s at hafter
    rw [List.append_assoc, List.singleton_append] at hafter
    have hrun := congrArg (List.takeWhile (· ≠ 34)) hafter
    rw [takeWhile_append_of_stop (by decide), takeWhile_append_of_stop (by decide),
      List.takeWhile_eq_self_iff.mpr] at hrun
    . have hsplit := List.takeWhile_append_dropWhile (p := fun b => decide (b ≠ 34)) (l := part)
      rw [← hrun] at hsplit
      cases hrest : part.dropWhile (· ≠ 34) with
      | nil =>
        rw [hrest, List.append_nil] at hsplit
        rw [← hc, hsplit]
      | cons d rest =>
        have hd : d = 34 := eq_of_dropWhile_ne hrest
        rw [hrest] at hsplit
        apply absurd _ (not_key_quote_isSuffix hkey raw)
        . exact rest
        . rw [← hd, hsplit]
          exact suffix_of_cons_suffix_cons hpart
    . intro b hb
      rw [decide_eq_true_eq]
      exact ne_of_mem_of_not_mem hb (hkey.notMem (by decide))

theorem matchHere_rest (hkey : IsIdentifier key) {raw : Raw} {part s : Bytes}
    (hpart : part <:+ 34 :: raw.bytes) (hne : part ≠ [])
    : matchHere (keyPattern key items) (part ++ 34 :: s) {}
        =
      if part = 34 :: key then matchHere items s (Match.pushAll {} (quote key)) else none := by
  split
  . next heq =>
    have htext : part ++ 34 :: s = quote key ++ s := by
      rw [heq]
      simp [quote, str]
    rw [htext]
    apply matchHere_literal
  . next hother =>
    apply matchHere_literal_of_not_isPrefix
    intro hpre
    exact hother (eq_of_quote_isPrefix hkey hpart hne hpre)

theorem searchFrom_rest (hkey : IsIdentifier key) (raw : Raw) {skipped part s : Bytes}
    (hpart : skipped ++ part <:+ 34 :: raw.bytes)
    (hnone : ∀ longer, longer ≠ [] → longer <:+ skipped → longer ++ part = 34 :: key
      → matchHere items s (Match.pushAll {} (quote key)) = none)
    (pos : Nat)
    : searchFrom (keyPattern key items) (skipped ++ (part ++ 34 :: s)) pos
        =
      searchFrom (keyPattern key items) (part ++ 34 :: s) (pos + skipped.length) := by
  induction skipped generalizing pos with
  | nil => rfl
  | cons c skipped ih =>
    have hfail : matchHere (keyPattern key items) (c :: (skipped ++ (part ++ 34 :: s))) {} = none := by
      rw [← List.append_assoc]
      refine (matchHere_rest hkey hpart (List.cons_ne_nil _ _)).trans ?_
      split
      . next heq => exact hnone (c :: skipped) (List.cons_ne_nil _ _) List.suffix_rfl heq
      . rfl
    rw [List.cons_append, searchFrom_cons_of_none hfail, ih, List.length_cons]
    . congr 1
      omega
    . exact (List.suffix_cons c (skipped ++ part)).trans hpart
    . intro longer hlonger hsuffix heq
      exact hnone longer hlonger (hsuffix.trans (List.suffix_cons c skipped)) heq

theorem matchHere_closing (hkey : IsIdentifier key) {s : Bytes}
    (hs : ∀ c ∈ s.head?, isIdentifierByte c = false)
    : matchHere (keyPattern key items) (34 :: s) {} = none := by
  apply matchHere_literal_of_not_isPrefix
  intro hpre
  have hname := (List.cons_prefix_cons.mp hpre).2
  obtain ⟨b, bytes, hbytes⟩ := List.exists_cons_of_ne_nil hkey.ne_nil
  change key ++ [34] <+: s at hname
  rw [hbytes] at hname
  cases s with
  | nil => simp at hname
  | cons c s =>
    have heq : b = c := (List.cons_prefix_cons.mp hname).1
    have hb := hkey.plain b (by simp [hbytes])
    rw [heq, hs c rfl] at hb
    contradiction

/-- A string is passed without a match if it does not read the key, or if nothing fits behind it. -/
theorem searchFrom_string (hkey : IsIdentifier key) (raw : Raw) {s : Bytes}
    (hs : ∀ c ∈ s.head?, isIdentifierByte c = false)
    (hnone : raw.Reads key → matchHere items s (Match.pushAll {} (quote key)) = none) (pos : Nat)
    : searchFrom (keyPattern key items) (quoted raw.bytes ++ s) pos
        =
      searchFrom (keyPattern key items) s (pos + (quoted raw.bytes).length) := by
  have htext : quoted raw.bytes ++ s = (34 :: raw.bytes) ++ ([] ++ 34 :: s) := by
    simp [quoted]
  rw [htext, searchFrom_rest hkey raw (by simp), List.nil_append,
    searchFrom_cons_of_none (matchHere_closing hkey hs)]
  . congr 1
    simp [quoted]
    omega
  . intro longer _ hsuffix heq
    rw [List.append_nil] at heq
    rw [heq] at hsuffix
    exact hnone hsuffix

/-- The match begins at the last quote in front of the key. -/
theorem searchFrom_string_of_reads (hkey : IsIdentifier key) {raw : Raw} {s : Bytes}
    (hreads : raw.Reads key)
    (hsome : (matchHere items s (Match.pushAll {} (quote key))).isSome = true) (pos : Nat)
    : ∃ before, quoted raw.bytes ++ s = before ++ (quote key ++ s)
        ∧ searchFrom (keyPattern key items) (quoted raw.bytes ++ s) pos
          = (matchHere items s (Match.pushAll {} (quote key))).map (pos + before.length, ·) := by
  obtain ⟨before, hbefore⟩ := hreads
  have htext : quoted raw.bytes ++ s = before ++ ((34 :: key) ++ 34 :: s) := by
    rw [← List.append_assoc, hbefore]
    simp [quoted]
  have hkeyText : (34 :: key) ++ 34 :: s = quote key ++ s := by
    simp [quote, str]
  have hmatch : matchHere (keyPattern key items) (quote key ++ s) {} = _ := matchHere_literal _ _
  refine ⟨before, by rw [htext, hkeyText], ?_⟩
  rw [htext, searchFrom_rest hkey raw, hkeyText, searchFrom_of_isSome, hmatch]
  . rw [hmatch]
    exact hsome
  . rw [hbefore]
  . intro longer hlonger _ heq
    exact absurd (List.append_left_eq_self.mp heq) hlonger

end

end NetmonPlugins

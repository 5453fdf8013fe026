import NetmonPlugins.Common.JsonUtils.Braces
import NetmonPlugins.Common.JsonUtils.Lookup

/-!
This module determines when the text in which the lookup of a path goes on is that of the object.
-/

namespace NetmonPlugins

open Regex Json

/-- The text that `extractJsonNestedValue` recurses on. -/
def nestedJson (json firstKey : Bytes) : Option Bytes :=
  match search (memberPattern firstKey braceTail) json with
  | none => none
  | some (position, m) =>
    let startPos := position + m.length - 1
    match closingBrace (json.drop (startPos + 1)) 1 (startPos + 1) with
    | none => none
    | some endPos => some (substr json startPos (endPos - startPos))

section

variable {key : Bytes}

theorem find_dot_of_notMem (hkey : (46 : UInt8) ∉ key) : find key (str ".") 0 = none := by
  rw [find_eq_none_iff]
  intro j _ _ hpre
  apply hkey
  exact List.mem_of_mem_drop (hpre.subset List.mem_cons_self)

theorem find_dot_append (hkey : (46 : UInt8) ∉ key) (path : Bytes)
    : find (key ++ (str "." ++ path)) (str ".") 0 = some key.length := by
  rw [find_zero]
  show findFrom (46 :: []) (key ++ (46 :: path)) 0 = _
  rw [findFrom_append_of_notMem _ _ _ _ _ hkey, findFrom_of_prefix _ _ _ (by simp), Nat.zero_add]

theorem extractJsonNestedValue_of_key (hkey : (46 : UInt8) ∉ key) (json : Bytes)
    : extractJsonNestedValue json key = extractJsonValue json key := by
  rw [extractJsonNestedValue]
  split
  . rfl
  . next dotPos hdot =>
    rw [find_dot_of_notMem hkey] at hdot
    contradiction

theorem extractJsonNestedValue_of_path (hkey : (46 : UInt8) ∉ key) (json path : Bytes)
    : extractJsonNestedValue json (key ++ (str "." ++ path))
        =
      match nestedJson json key with
      | none => []
      | some nested => extractJsonNestedValue nested path := by
  rw [extractJsonNestedValue]
  split
  . next hdot =>
    rw [find_dot_append hkey] at hdot
    contradiction
  . next dotPos hdot =>
    rw [find_dot_append hkey, Option.some.injEq] at hdot
    have hfirst : substr (key ++ (str "." ++ path)) 0 key.length = key := by simp [substr]
    have hrest : (key ++ (str "." ++ path)).drop (key.length + 1) = path := by simp [str]
    have hpattern : quotedKey key ++ colon ++ literal (str "\x7b") = memberPattern key braceTail :=
      rfl
    rw [← hdot, hfirst, hrest]
    unfold nestedJson
    dsimp only
    rw [hpattern]
    cases search (memberPattern key braceTail) json with
    | none => rfl
    | some found =>
      dsimp only
      cases closingBrace (json.drop (found.1 + found.2.length - 1 + 1)) 1
        (found.1 + found.2.length - 1 + 1) with
      | none => rfl
      | some endPos => rfl

theorem nestedJson_of_none (hkey : IsIdentifier key) {document : Document}
    (hnone : document.value.firstNamed key Node.isObject = none)
    : nestedJson document.text key = none := by
  unfold nestedJson
  rw [memberPattern_eq hkey, search_of_firstNamed_none hkey matches_braceTail.recognises hnone]

theorem nestedJson_of_search {skipped rest : Bytes} {position : Nat} {m : Match}
    (hsearch : search (memberPattern key braceTail) (skipped ++ 123 :: rest) = some (position, m))
    (hstart : position + m.length = skipped.length + 1)
    : nestedJson (skipped ++ 123 :: rest) key
        =
      (closingBrace rest 1 (skipped.length + 1)).map fun endPos =>
        (123 :: rest).take (endPos - skipped.length) := by
  have hpos : position + m.length - 1 = skipped.length := by omega
  have hdrop : (skipped ++ 123 :: rest).drop (skipped.length + 1) = rest := by simp
  unfold nestedJson
  rw [hsearch]
  dsimp only
  rw [hpos, hdrop]
  unfold substr
  rw [List.drop_left]
  cases closingBrace rest 1 (skipped.length + 1) with
  | none => rfl
  | some endPos => rfl

/-- The count begins behind the opening brace of the object that is found. -/
theorem exists_nestedJson (hkey : IsIdentifier key) {document : Document} {object : ValueNode}
    (hfirst : document.value.firstNamed key Node.isObject = some object)
    : ∃ skipped inside after : Bytes, object.text true = 123 :: inside
        ∧ nestedJson document.text key
          = (closingBrace (inside ++ after) 1 (skipped.length + 1)).map fun endPos =>
            (123 :: (inside ++ after)).take (endPos - skipped.length) := by
  obtain ⟨_, _, _, hobject⟩ := Node.exists_of_firstNamed hfirst
  obtain ⟨before, colon, space, after, htext, _, hsearch⟩ :=
    search_of_firstNamed_some hkey matches_braceTail.recognises hfirst
  obtain ⟨c, inside, hcons, _, _, _, hbrace⟩ := head_of_text object
  rw [hbrace.mpr hobject] at hcons
  have hmatch : ∀ m, matchHere braceTail (object.text true ++ after) m = some (m.push 123) := by
    intro m
    rw [hcons]
    rfl
  have hdocument : document.text = (before ++ (quote key ++ (colon.bytes ++ 58 :: space.bytes)))
      ++ 123 :: (inside ++ after) := by
    rw [htext, hcons]
    simp [behindName]
  rw [← memberPattern_eq hkey, matches_braceTail.behindName, hmatch, Option.map_some,
    hdocument] at hsearch
  refine ⟨before ++ (quote key ++ (colon.bytes ++ 58 :: space.bytes)), inside, after, hcons, ?_⟩
  rw [hdocument]
  apply nestedJson_of_search hsearch
  simp [Match.push]
  omega

theorem nestedJson_eq_some_iff (hkey : IsIdentifier key) {document : Document} {object : ValueNode}
    (hfirst : document.value.firstNamed key Node.isObject = some object)
    : nestedJson document.text key = some (object.text true)
        ↔
      ClosesAtEnd (object.text true) := by
  obtain ⟨skipped, inside, after, htext, hnested⟩ := exists_nestedJson hkey hfirst
  rw [hnested, htext, closesAtEnd_cons_iff, ← closingBrace_eq_iff inside after 0 (skipped.length + 1)]
  cases hclosing : closingBrace (inside ++ after) (0 + 1) (skipped.length + 1) with
  | none => simp
  | some endPos =>
    have hlt := lt_of_closingBrace hclosing
    rw [List.length_append] at hlt
    rw [Option.map_some, Option.some.injEq, Option.some.injEq, ← List.cons_append]
    constructor
    . intro htake
      have hlength := congrArg List.length htake
      simp only [List.length_take, List.length_append, List.length_cons] at hlength
      omega
    . intro hend
      have hcut : endPos - skipped.length = (123 :: inside).length := by
        rw [hend, List.length_cons]
        omega
      rw [hcut, List.take_left]

/-- The nested text is the object exactly where counting the braces, with those in strings, comes to
the brace that closes it. -/
theorem nestedJson_eq_text_iff (document : Document) (key path : Bytes) (name : Raw)
    (object : ValueNode) (hkey : IsIdentifier key)
    (hquotes : ∀ raw ∈ document.value.strings, (34 : UInt8) ∉ raw.bytes)
    (honce : document.value.members.filter (·.1.bytes = key) = [(name, object)])
    (hobject : object.isObject = true)
    : extractJsonNestedValue document.text (key ++ (str "." ++ path))
          =
        (match nestedJson document.text key with
          | none => []
          | some nested => extractJsonNestedValue nested path)
        ∧
      (nestedJson document.text key = some (object.text true)
        ↔ ClosesAtEnd (object.text true)) := by
  constructor
  . apply extractJsonNestedValue_of_path (hkey.notMem (by decide))
  . apply nestedJson_eq_some_iff hkey
    have hmem : (name, object) ∈ document.value.members.filter (·.1.bytes = key) := by
      rw [honce]
      exact List.mem_cons_self
    rw [List.mem_filter, decide_eq_true_eq] at hmem
    apply Node.firstNamed_of_unique hmem.1 _ hobject
    . intro m hm hreads
      have hname := (reads_iff_of_notMem (hquotes _ (Node.name_mem_strings hm))).mp hreads
      have hother : m ∈ document.value.members.filter (·.1.bytes = key) := by
        rw [List.mem_filter, decide_eq_true_eq]
        exact ⟨hm, hname⟩
      rw [honce, List.mem_singleton] at hother
      rw [hother]
    . apply (reads_iff_of_notMem (hquotes _ (Node.name_mem_strings hmem.1))).mpr hmem.2

def tagged (tag : Raw) : ValueNode :=
  .object
    (.member {} {} ⟨str "t", by decide⟩ {} {} (.string tag)
      (.member {} {} ⟨str "n", by decide⟩ {} {}
        (.literal (.ofPlain (str "1") (by decide) (by decide)))
        .noMembers))
    {}

def taggedDocument (tag : Raw) : Document where
  value := .object (.member {} {} ⟨str "a", by decide⟩ {} {} (tagged tag) .noMembers) {}

def pairTag : Raw := ⟨str "\x7bx\x7d", by decide⟩

def closingTag : Raw := ⟨str "\x7d", by decide⟩

theorem nestedJson_pairTag
    : nestedJson (taggedDocument pairTag).text (str "a") = some ((tagged pairTag).text true) := by
  apply (nestedJson_eq_text_iff (taggedDocument pairTag) (str "a") (str "n")
    ⟨str "a", by decide⟩ (tagged pairTag) (by decide) (by decide) rfl rfl).2.mpr
  decide

/-- A closing brace in a string ends the nested text in the middle of the string. -/
theorem nestedJson_closingTag
    : (taggedDocument closingTag).text = str "\x7b\"a\":\x7b\"t\":\"\x7d\",\"n\":1\x7d\x7d"
        ∧
      nestedJson (taggedDocument closingTag).text (str "a") = some (str "\x7b\"t\":\"\x7d")
        ∧
      nestedJson (taggedDocument closingTag).text (str "a")
          ≠ some ((tagged closingTag).text true) := by
  decide

end

end NetmonPlugins

import NetmonPlugins.Common.JsonUtils.Members
import NetmonPlugins.Common.Occurrences

/-!
This module counts a quoted key in a JSON text: it occurs once for every string that reads the key,
whether the string is a name or a value.
-/

namespace NetmonPlugins

open Regex Json

theorem quote_ne_nil (key : Bytes) : quote key ≠ [] := by
  simp [quote, str]

def countQuoted (key s : Bytes) : Nat := countOccurrences s (quote key) (quote_ne_nil key) 0

theorem findFrom_quote (key s : Bytes) (pos : Nat)
    : findFrom (quote key) s pos = (searchFrom (keyPattern key []) s pos).map (·.1) := by
  have hpattern : keyPattern key [] = literal (quote key) := by simp [keyPattern]
  rw [hpattern, findFrom_eq_searchFrom]

section

variable {key : Bytes} {rest : Bytes}

theorem countQuoted_of_notMem {skipped : Bytes} (h : (34 : UInt8) ∉ skipped) (s : Bytes)
    : countQuoted key (skipped ++ s) = countQuoted key s := by
  apply countOccurrences_append_of_skip
  rw [findFrom_quote, findFrom_quote, searchFrom_skip h, Nat.zero_add]

theorem countQuoted_string (hkey : IsIdentifier key) (raw : Raw)
    (hrest : ∀ c ∈ rest.head?, isIdentifierByte c = false)
    : countQuoted key (quoted raw.bytes ++ rest)
        =
      (if raw.Reads key then 1 else 0) + countQuoted key rest := by
  split
  . next hreads =>
    have hsome : (matchHere [] rest (Match.pushAll {} (quote key))).isSome = true := rfl
    obtain ⟨before, htext, hsearch⟩ := searchFrom_string_of_reads hkey hreads hsome 0
    rw [htext] at hsearch ⊢
    apply countOccurrences_of_findFrom_some
    rw [findFrom_quote, hsearch, Nat.zero_add]
    rfl
  . next hreads =>
    rw [Nat.zero_add]
    apply countOccurrences_append_of_skip
    rw [findFrom_quote, findFrom_quote,
      searchFrom_string hkey raw hrest (fun h => absurd h hreads), Nat.zero_add]

theorem countQuoted_bracket (close : Blank) {opening closing : UInt8} {text : Bytes} {count : Nat}
    (hopening : opening ≠ 34) (hclosing : closing ≠ 34)
    (h : countQuoted key (text ++ (close.bytes ++ closing :: rest))
      = count + countQuoted key (close.bytes ++ closing :: rest))
    : countQuoted key (opening :: (text ++ (close.bytes ++ [closing])) ++ rest)
        =
      count + countQuoted key rest := by
  have hend : close.bytes ++ closing :: rest = (close.bytes ++ [closing]) ++ rest := by
    simp
  rw [hend] at h
  rw [bracket_append, countQuoted_of_notMem (by simp [hopening.symm]), h,
    countQuoted_of_notMem (quote_notMem_closing close hclosing)]

theorem countQuoted_node (hkey : IsIdentifier key) {shape : Shape} (v : Node shape) (first : Bool)
    (hrest : Delimits shape rest)
    : countQuoted key (v.text first ++ rest)
        =
      v.strings.countP (·.Reads key) + countQuoted key rest := by
  induction v generalizing first rest with
  | literal atom =>
    rw [Node.strings, List.countP_nil, Nat.zero_add]
    apply countQuoted_of_notMem
    intro hmem
    have hplain := atom.plain _ hmem
    revert hplain
    decide
  | string raw =>
    rw [Node.text, countQuoted_string hkey raw hrest.isIdentifierByte_head, Node.strings,
      List.countP_singleton]
    simp
  | array elements close ih =>
    exact countQuoted_bracket close (by decide) (by decide)
      (ih true (ends_closing close (.inr rfl) rest))
  | object members close ih =>
    exact countQuoted_bracket close (by decide) (by decide)
      (ih true ⟨close, 125, rest, rfl, .inr rfl⟩)
  | noElements =>
    rw [Node.strings, List.countP_nil, Nat.zero_add]
    rfl
  | element comma lead head elements ihHead ihElements =>
    rw [text_element_append, countQuoted_of_notMem (quote_notMem_separator comma lead first),
      ihHead true (ends_text elements hrest), ihElements false hrest, Node.strings,
      List.countP_append, Nat.add_assoc]
  | noMembers =>
    rw [Node.strings, List.countP_nil, Nat.zero_add]
    rfl
  | member comma lead name colon space value members ihValue ihMembers =>
    have hafter := closes_text members hrest
    have hname := isIdentifierByte_behindName colon space
      (value.text true ++ (members.text false ++ rest))
    rw [text_member_append, countQuoted_of_notMem (quote_notMem_separator comma lead first),
      countQuoted_string hkey name hname, behindName_eq,
      countQuoted_of_notMem (quote_notMem_colon colon space), ihValue true hafter.ends,
      ihMembers false hrest, Node.strings, List.countP_cons, List.countP_append]
    simp only [decide_eq_true_eq]
    omega

/-- The count of a quoted key over a document. -/
theorem countQuoted_document (hkey : IsIdentifier key) (document : Document)
    : countQuoted key document.text = document.value.strings.countP (·.Reads key) := by
  have hends : EndsValue document.trail.bytes := ⟨document.trail, [], by simp, by simp⟩
  have hnil : countQuoted key [] = 0 := by
    unfold countQuoted countOccurrences
    split
    . rfl
    . next found hfound =>
      rw [find_zero, findFrom, if_neg (quote_ne_nil key)] at hfound
      contradiction
  have htrail : countQuoted key (document.trail.bytes ++ []) = countQuoted key [] :=
    countQuoted_of_notMem (document.trail.notMem (by decide)) []
  rw [List.append_nil] at htrail
  unfold Document.text
  rw [countQuoted_of_notMem (document.lead.notMem (by decide)),
    countQuoted_node hkey document.value true hends, htrail, hnil, Nat.add_zero]

end

end NetmonPlugins

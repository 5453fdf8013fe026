import NetmonPlugins.Common.JsonUtils.Values

/-!
This module contains what the lookups return for a key of a document.
-/

namespace NetmonPlugins

open Regex Json

theorem quoted_eq_memberPattern (key : Bytes)
    : quotedKey key ++ colon ++ literal (str "\"")
        ++ [.openGroup, .one (· ≠ 34), .many (· ≠ 34), .closeGroup] ++ literal (str "\"")
        =
      memberPattern key quotedTail := by
  unfold memberPattern quotedTail quotedGroup
  simp [List.append_assoc]

theorem extractJsonValue_eq (json key : Bytes)
    : extractJsonValue json key
        =
      match search (memberPattern key quotedTail) json with
      | some (_, m) => m.group
      | none =>
        match search (memberPattern key bareTail) json with
        | some (_, m) => trim m.group
        | none => [] := by
  unfold extractJsonValue
  rw [quoted_eq_memberPattern]
  rfl

section

variable {key : Bytes} {items : List Item} {kind : ValueNode → Bool}

theorem finds_document (hkey : IsIdentifier key) (hitems : Recognises items kind)
    (document : Document)
    : Finds key items (document.value.firstNamed key kind) document.text [] := by
  have hlead : Finds key items none document.lead.bytes
      (document.value.text true ++ document.trail.bytes ++ []) :=
    finds_of_notMem (document.lead.notMem (by decide))
  have htrail : Finds key items none document.trail.bytes [] :=
    finds_of_notMem (document.trail.notMem (by decide))
  have hends : EndsValue (document.trail.bytes ++ []) := ⟨document.trail, [], rfl, by simp⟩
  have hvalue := finds_node hkey hitems document.value true hends
  have hall := hlead.or (hvalue.or htrail)
  rwa [Option.none_or, Option.or_none] at hall

theorem search_of_firstNamed_none (hkey : IsIdentifier key) (hitems : Recognises items kind)
    {document : Document} (hnone : document.value.firstNamed key kind = none)
    : search (keyPattern key items) document.text = none := by
  have hfinds := finds_document hkey hitems document
  rw [hnone] at hfinds
  have hsearch := hfinds 0
  rw [List.append_nil] at hsearch
  unfold search
  rw [hsearch, searchFrom]
  unfold keyPattern
  rw [matchHere_literal_of_not_isPrefix]
  . rfl
  . simp [quote, str]

theorem search_of_firstNamed_some (hkey : IsIdentifier key) (hitems : Recognises items kind)
    {document : Document} {value : ValueNode}
    (hsome : document.value.firstNamed key kind = some value)
    : ∃ before colon space after, document.text
          = before ++ (quote key ++ behindName colon space (value.text true ++ after))
        ∧ Closes after
        ∧ search (keyPattern key items) document.text
          = (matchHere items (behindName colon space (value.text true ++ after))
            (Match.pushAll {} (quote key))).map (before.length, ·) := by
  have hfinds := finds_document hkey hitems document
  rw [hsome] at hfinds
  obtain ⟨before, colon, space, after, htext, hcloses, hsearch⟩ := hfinds
  rw [List.append_nil] at htext hsearch
  refine ⟨before, colon, space, after, htext, hcloses, ?_⟩
  unfold search
  rw [hsearch 0, Nat.zero_add]

theorem jsonHasKey_iff (hkey : IsIdentifier key) (document : Document)
    : jsonHasKey document.text key = true ↔ ∃ m ∈ document.value.members, m.1.Reads key := by
  have hpattern : quotedKey key ++ (.many isSpace :: literal (str ":"))
      = keyPattern key hasKeyTail := by
    unfold keyPattern hasKeyTail
    rw [quotedKey_of_notMem (hkey.notMem (by decide))]
  unfold jsonHasKey
  rw [hpattern]
  cases hfirst : document.value.firstNamed key (fun _ => true) with
  | none =>
    rw [search_of_firstNamed_none hkey recognises_hasKeyTail hfirst]
    rw [Node.firstNamed_eq_none_iff] at hfirst
    simpa using hfirst
  | some value =>
    obtain ⟨before, colon, space, after, _, hcloses, hsearch⟩ :=
      search_of_firstNamed_some hkey recognises_hasKeyTail hfirst
    have hsome := recognises_hasKeyTail.isSome_eq colon space value after
      (Match.pushAll {} (quote key)) hcloses
    rw [hsearch, Option.isSome_map, hsome]
    obtain ⟨name, hmem, hreads, _⟩ := Node.exists_of_firstNamed hfirst
    exact iff_of_true rfl ⟨_, hmem, hreads⟩

theorem extractJsonValue_of_filled (hkey : IsIdentifier key) {document : Document} {raw : Raw}
    (hfirst : document.value.firstNamed key Node.isFilled = some (.string raw))
    : extractJsonValue document.text key = raw.visible := by
  obtain ⟨name, _, _, hkind⟩ := Node.exists_of_firstNamed hfirst
  have hne : raw.bytes ≠ [] := by simpa [Node.isFilled] using hkind
  obtain ⟨before, colon, space, after, _, _, hsearch⟩ :=
    search_of_firstNamed_some hkey matches_quotedTail.recognises hfirst
  rw [extractJsonValue_eq, memberPattern_eq hkey, hsearch, matches_quotedTail.behindName, Node.text,
    matchHere_quotedTail, if_neg hne]
  simp [Match.push]

theorem extractJsonValue_of_none (hkey : IsIdentifier key) {document : Document}
    (hnone : ∀ m ∈ document.value.members, ¬ m.1.Reads key)
    : extractJsonValue document.text key = [] := by
  have hfirst : ∀ kind, document.value.firstNamed key kind = none := by
    intro kind
    rw [Node.firstNamed_eq_none_iff]
    intro m hm hreads
    exact absurd hreads (hnone m hm)
  rw [extractJsonValue_eq, memberPattern_eq hkey, memberPattern_eq hkey,
    search_of_firstNamed_none hkey matches_quotedTail.recognises (hfirst _),
    search_of_firstNamed_none hkey matches_bareTail.recognises (hfirst _)]

theorem trim_append_blank (text : Bytes) {space : Bytes} (hspace : ∀ c ∈ space, isTrimmed c = true)
    : trim (text ++ space) = trim text := by
  have hreverse : ∀ c ∈ space.reverse, isTrimmed c = true := by
    intro c hc
    exact hspace c (List.mem_reverse.mp hc)
  unfold trim
  rw [List.dropWhile_append]
  split
  . next hempty =>
    rw [List.isEmpty_iff.mp hempty, List.dropWhile_eq_nil_iff.mpr hspace]
  . rw [List.reverse_append, List.dropWhile_append_of_pos hreverse]

theorem isValueByte_of_isBlank {c : UInt8} (h : isBlank c = true) : isValueByte c = true := by
  apply isValueByte_of_ne
  . rintro rfl
    contradiction
  . rintro rfl
    contradiction

/-- The run up to the comma or the brace behind a value is that of its text. -/
theorem trim_takeWhile_of_closes (value : ValueNode) {after : Bytes} (hafter : Closes after)
    : trim ((value.text true ++ after).takeWhile isValueByte)
        =
      trim ((value.text true).takeWhile isValueByte) := by
  obtain ⟨blank, c, s, rfl, hc⟩ := hafter
  have hstop : isValueByte c = false := by
    rcases hc with rfl | rfl
    . rfl
    . rfl
  rw [← List.append_assoc, takeWhile_append_of_stop hstop, List.takeWhile_append]
  split
  . next hall =>
    have htext := List.takeWhile_prefix isValueByte (l := value.text true)
    rw [htext.eq_of_length hall, List.takeWhile_eq_self_iff.mpr fun c hc =>
      isValueByte_of_isBlank (blank.blank c hc)]
    exact trim_append_blank _ blank.blank
  . rfl

theorem extractJsonValue_of_bare (hkey : IsIdentifier key) {document : Document} {value : ValueNode}
    (hfilled : document.value.firstNamed key Node.isFilled = none)
    (hfirst : document.value.firstNamed key (fun _ => true) = some value)
    : extractJsonValue document.text key = trim ((value.text true).takeWhile isValueByte) := by
  obtain ⟨before, colon, space, after, _, hcloses, hsearch⟩ :=
    search_of_firstNamed_some hkey matches_bareTail.recognises hfirst
  have hsome := matches_bareTail.isSome_eq value after
    (((Match.pushAll {} (quote key)).pushAll (colon.bytes ++ [58])).pushAll space.bytes)
  obtain ⟨m, hmatch⟩ := Option.isSome_iff_exists.mp hsome
  rw [extractJsonValue_eq, memberPattern_eq hkey, memberPattern_eq hkey,
    search_of_firstNamed_none hkey matches_quotedTail.recognises hfilled, hsearch,
    matches_bareTail.behindName, hmatch]
  show trim m.group = _
  rw [group_of_matchHere_run (by simp) hmatch]
  exact trim_takeWhile_of_closes value hcloses

theorem trim_takeWhile_literal (atom : Literal)
    : trim (((Node.literal atom).text true).takeWhile isValueByte) = atom.bytes := by
  have hplain : ∀ c ∈ atom.bytes, isTrimmed c = false := by
    intro c hc
    have hc := atom.plain c hc
    unfold isLiteralByte at hc
    unfold isTrimmed
    grind
  have hrun : atom.bytes.takeWhile isValueByte = atom.bytes :=
    List.takeWhile_eq_self_iff.mpr fun c hc => isValueByte_of_isLiteralByte (atom.plain c hc)
  have hself : ∀ text : Bytes, (∀ c ∈ text, isTrimmed c = false)
      → text.dropWhile isTrimmed = text := by
    intro text htext
    rw [List.dropWhile_eq_self_iff]
    intro hlength
    rw [htext _ (List.getElem_mem hlength)]
    exact Bool.false_ne_true
  unfold trim
  rw [Node.text, hrun, hself _ hplain, hself, List.reverse_reverse]
  intro c hc
  exact hplain c (List.mem_reverse.mp hc)

end

end NetmonPlugins

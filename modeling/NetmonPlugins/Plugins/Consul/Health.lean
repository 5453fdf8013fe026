import NetmonPlugins.Common.HttpApi.Response
import NetmonPlugins.Common.JsonUtils.Members
import NetmonPlugins.Plugins.Consul.Impl

/-!
This module determines which layouts of a health document `check_consul` reads: it finds a member
`Status` that has no blanks around its colon, at any depth.
-/

namespace NetmonPlugins
namespace ConsulPlugin

open Regex Json

/-- The members that are written without blanks around their colon, at any depth. -/
def compactMembers : Node shape → List (Raw × ValueNode)
  | .literal _ => []
  | .string _ => []
  | .array elements _ => compactMembers elements
  | .object members _ => compactMembers members
  | .noElements => []
  | .element _ _ head tail => compactMembers head ++ compactMembers tail
  | .noMembers => []
  | .member _ _ name colon space value rest =>
    (if colon.bytes = [] ∧ space.bytes = [] then [(name, value)] else [])
      ++ (compactMembers value ++ compactMembers rest)

def isText (text : Bytes) : ValueNode → Bool
  | .string raw => raw.bytes = text
  | .literal _ => false
  | .array _ _ => false
  | .object _ _ => false

def statusKey : Bytes := str "Status"

/-- What the search for a member has behind the name. -/
def valueText (text : Bytes) : Bytes := 58 :: quoted text

/-- `"Status":"…"` is somewhere in the text. -/
def Shows (status : Bytes) (v : Node shape) : Prop :=
  ∃ m ∈ compactMembers v, m.1.Reads statusKey ∧ isText status m.2 = true

def pattern (status : Bytes) : List Item := keyPattern statusKey (literal (valueText status))

theorem contains_iff_search (s status : Bytes)
    : contains s (quote statusKey ++ valueText status) = true
        ↔
      (searchFrom (pattern status) s 0).isSome = true := by
  have hpattern : pattern status = literal (quote statusKey ++ valueText status) := by
    simp [pattern, keyPattern, literal]
  unfold contains
  rw [find_zero, hpattern, findFrom_eq_searchFrom, Option.isSome_map]

/-- The search matches in the text. -/
def Found (status s : Bytes) : Prop := (searchFrom (pattern status) s 0).isSome = true

section

variable {status rest : Bytes}

theorem isIdentifier_statusKey : IsIdentifier statusKey := by decide

theorem found_of_notMem {skipped : Bytes} (h : (34 : UInt8) ∉ skipped) (s : Bytes)
    : Found status (skipped ++ s) ↔ Found status s := by
  unfold Found pattern
  rw [searchFrom_skip h, isSome_searchFrom_pos _ 0]

theorem found_string (raw : Raw) (hrest : ∀ c ∈ rest.head?, isIdentifierByte c = false)
    : Found status (quoted raw.bytes ++ rest)
        ↔
      raw.Reads statusKey ∧ valueText status <+: rest ∨ Found status rest := by
  by_cases hmatch : raw.Reads statusKey ∧ valueText status <+: rest
  . have hsome : (matchHere (literal (valueText status)) rest
        (Match.pushAll {} (quote statusKey))).isSome = true :=
      isSome_matchHere_literal.mpr hmatch.2
    obtain ⟨before, -, hsearch⟩ :=
      searchFrom_string_of_reads isIdentifier_statusKey hmatch.1 hsome 0
    have hfound : Found status (quoted raw.bytes ++ rest) := by
      unfold Found pattern
      rw [hsearch, Option.isSome_map]
      exact hsome
    exact iff_of_true hfound (.inl hmatch)
  . have hnone : raw.Reads statusKey → matchHere (literal (valueText status)) rest
        (Match.pushAll {} (quote statusKey)) = none := by
      intro hreads
      rw [← Option.not_isSome_iff_eq_none, isSome_matchHere_literal]
      intro hvalue
      exact hmatch ⟨hreads, hvalue⟩
    rw [or_iff_right hmatch]
    unfold Found pattern
    rw [searchFrom_string isIdentifier_statusKey raw hrest hnone, isSome_searchFrom_pos _ 0]

/-- A quote inside of a string stands behind a backslash, so the status is all of the string. -/
theorem bytes_eq_of_isPrefix {raw : Raw} (hquote : (34 : UInt8) ∉ status)
    (hbackslash : (92 : UInt8) ∉ status) {after : Bytes}
    (h : status ++ [34] <+: raw.bytes ++ 34 :: after)
    : raw.bytes = status := by
  obtain ⟨tail, htail⟩ := h
  rw [List.append_assoc] at htail
  rcases List.append_eq_append_iff.mp htail with ⟨inner, hraw, hinner⟩ | ⟨inner, hstatus, hinner⟩
  . cases inner with
    | nil => rw [hraw, List.append_nil]
    | cons c inner =>
      rw [List.singleton_append, List.cons_append, List.cons.injEq] at hinner
      have hescaped := raw.escaped
      rw [hraw, ← hinner.1] at hescaped
      obtain ⟨before, hbefore⟩ := backslash_of_isEscaped hescaped
      exact absurd (by rw [hbefore]; simp) hbackslash
  . cases inner with
    | nil => rw [hstatus, List.append_nil]
    | cons c inner =>
      rw [List.cons_append, List.cons.injEq] at hinner
      rw [hstatus, ← hinner.1] at hquote
      simp at hquote

theorem blank_nil_of_cons_prefix {blank : Blank} {c : UInt8} {pat text : Bytes}
    (hc : isBlank c = false) (h : c :: pat <+: blank.bytes ++ text)
    : blank.bytes = [] := by
  cases hbytes : blank.bytes with
  | nil => rfl
  | cons b bytes =>
    rw [hbytes] at h
    have heq : c = b := (List.cons_prefix_cons.mp h).1
    have hb := blank.blank b (by simp [hbytes])
    rw [← heq, hc] at hb
    contradiction

/-- What the pattern has behind the name is there only without blanks. -/
theorem valueText_isPrefix_iff (hquote : (34 : UInt8) ∉ status) (hbackslash : (92 : UInt8) ∉ status)
    (colon space : Blank) (value : ValueNode) (after : Bytes)
    : valueText status <+: behindName colon space (value.text true ++ after)
        ↔
      (colon.bytes = [] ∧ space.bytes = []) ∧ isText status value = true := by
  unfold valueText behindName
  constructor
  . intro h
    have hcolon := blank_nil_of_cons_prefix (by decide) h
    rw [hcolon, List.nil_append, List.cons_prefix_cons] at h
    have hspace := blank_nil_of_cons_prefix (by decide) h.2
    rw [hspace, List.nil_append] at h
    refine ⟨⟨hcolon, hspace⟩, ?_⟩
    cases value with
    | string raw =>
      have htext : Node.text true (.string raw) ++ after = 34 :: (raw.bytes ++ 34 :: after) := by
        simp [Node.text, quoted]
      rw [htext] at h
      unfold quoted at h
      rw [List.cons_prefix_cons] at h
      exact decide_eq_true (bytes_eq_of_isPrefix hquote hbackslash h.2.2)
    | literal atom =>
      have hne := atom.ne_nil
      cases hbytes : atom.bytes with
      | nil => contradiction
      | cons b bytes =>
        have htext : Node.text true (.literal atom) ++ after = b :: (bytes ++ after) := by
          simp [Node.text, hbytes]
        rw [htext] at h
        have heq : 34 = b := (List.cons_prefix_cons.mp h.2).1
        have hb := atom.plain b (by simp [hbytes])
        rw [← heq] at hb
        contradiction
    | array elements close =>
      have heq : (34 : UInt8) = 91 := (List.cons_prefix_cons.mp h.2).1
      contradiction
    | object members close =>
      have heq : (34 : UInt8) = 123 := (List.cons_prefix_cons.mp h.2).1
      contradiction
  . rintro ⟨⟨hcolon, hspace⟩, hvalue⟩
    cases value with
    | string raw =>
      have hraw : raw.bytes = status := of_decide_eq_true hvalue
      rw [hcolon, hspace, List.nil_append, List.nil_append, List.cons_prefix_cons, Node.text, hraw]
      exact ⟨rfl, List.prefix_append _ _⟩
    | literal atom => contradiction
    | array elements close => contradiction
    | object members close => contradiction

theorem not_valueText_isPrefix (hrest : EndsValue rest) : ¬ valueText status <+: rest := by
  obtain ⟨blank, s, rfl, hs⟩ := hrest
  intro h
  have hblank := blank_nil_of_cons_prefix (by decide) h
  rw [hblank, List.nil_append] at h
  cases s with
  | nil => simp [valueText] at h
  | cons c s =>
    have heq : 58 = c := (List.cons_prefix_cons.mp h).1
    have hc := hs c rfl
    rw [← heq] at hc
    revert hc
    decide

theorem found_bracket (close : Blank) {opening closing : UInt8} {text : Bytes} {shows : Prop}
    (hopening : opening ≠ 34) (hclosing : closing ≠ 34)
    (h : Found status (text ++ (close.bytes ++ closing :: rest))
      ↔ shows ∨ Found status (close.bytes ++ closing :: rest))
    : Found status (opening :: (text ++ (close.bytes ++ [closing])) ++ rest)
        ↔
      shows ∨ Found status rest := by
  have hend : close.bytes ++ closing :: rest = (close.bytes ++ [closing]) ++ rest := by
    simp
  rw [hend] at h
  rw [bracket_append, found_of_notMem (by simp [hopening.symm]), h,
    found_of_notMem (quote_notMem_closing close hclosing)]

theorem shows_element (comma lead : Blank) (head : ValueNode) (elements : Node .elements)
    : Shows status (Node.element comma lead head elements)
        ↔
      Shows status head ∨ Shows status elements := by
  simp only [Shows, compactMembers, List.mem_append, or_and_right, exists_or]

theorem shows_member (comma lead colon space : Blank) (name : Raw) (value : ValueNode)
    (members : Node .members)
    : Shows status (Node.member comma lead name colon space value members)
        ↔
      (name.Reads statusKey ∧ (colon.bytes = [] ∧ space.bytes = []) ∧ isText status value = true)
        ∨ Shows status value ∨ Shows status members := by
  unfold Shows
  rw [compactMembers]
  split
  . next hblank => simp [or_and_right, exists_or, hblank]
  . next hblank =>
    have hnot : ¬ (name.Reads statusKey ∧ (colon.bytes = [] ∧ space.bytes = [])
        ∧ isText status value = true) := by
      intro h
      exact hblank h.2.1
    rw [or_iff_right hnot]
    simp [or_and_right, exists_or]

theorem found_node (hquote : (34 : UInt8) ∉ status) (hbackslash : (92 : UInt8) ∉ status)
    {shape : Shape} (v : Node shape) (first : Bool) (hrest : Delimits shape rest)
    : Found status (v.text first ++ rest) ↔ Shows status v ∨ Found status rest := by
  induction v generalizing first rest with
  | literal atom =>
    have hskip : Found status ((Node.literal atom).text first ++ rest) ↔ Found status rest := by
      apply found_of_notMem
      intro hmem
      have hplain := atom.plain _ hmem
      revert hplain
      decide
    simpa [Shows, compactMembers] using hskip
  | string raw =>
    rw [Node.text, found_string raw hrest.isIdentifierByte_head]
    simp [Shows, compactMembers, not_valueText_isPrefix hrest]
  | array elements close ih =>
    exact found_bracket close (by decide) (by decide) (ih true (ends_closing close (.inr rfl) rest))
  | object members close ih =>
    exact found_bracket close (by decide) (by decide) (ih true ⟨close, 125, rest, rfl, .inr rfl⟩)
  | noElements => simp [Shows, compactMembers, Node.text]
  | element comma lead head elements ihHead ihElements =>
    rw [text_element_append, found_of_notMem (quote_notMem_separator comma lead first),
      ihHead true (ends_text elements hrest), ihElements false hrest, shows_element,
      or_assoc]
  | noMembers => simp [Shows, compactMembers, Node.text]
  | member comma lead name colon space value members ihValue ihMembers =>
    have hafter := closes_text members hrest
    have hname := isIdentifierByte_behindName colon space
      (value.text true ++ (members.text false ++ rest))
    rw [text_member_append, found_of_notMem (quote_notMem_separator comma lead first),
      found_string name hname, valueText_isPrefix_iff hquote hbackslash, behindName_eq,
      found_of_notMem (quote_notMem_colon colon space), ihValue true hafter.ends,
      ihMembers false hrest, shows_member]
    simp only [or_assoc]

theorem contains_document_iff (hquote : (34 : UInt8) ∉ status) (hbackslash : (92 : UInt8) ∉ status)
    (document : Document)
    : contains document.text (quote statusKey ++ valueText status) = true
        ↔
      Shows status document.value := by
  have hends : EndsValue document.trail.bytes := ⟨document.trail, [], by simp, by simp⟩
  have hnil : ¬ Found status [] := by
    intro h
    unfold Found pattern keyPattern at h
    rw [searchFrom, matchHere_literal_of_not_isPrefix] at h
    . contradiction
    . simp [quote, str]
  have htrail : Found status (document.trail.bytes ++ []) ↔ Found status [] :=
    found_of_notMem (document.trail.notMem (by decide)) []
  rw [List.append_nil] at htrail
  have hfound : Found status document.text ↔ Shows status document.value := by
    unfold Document.text
    rw [found_of_notMem (document.lead.notMem (by decide)),
      found_node hquote hbackslash document.value true hends, htrail, or_iff_left hnil]
  rw [contains_iff_search]
  exact hfound

end

/-- The elements of the list, each of which is a health check. -/
def checksOf : ValueNode → List ValueNode
  | .array elements _ => elements.values
  | .literal _ => []
  | .string _ => []
  | .object _ _ => []

/-- Some check has this status. -/
def hasStatus (status : Bytes) (document : Document) : Bool :=
  (checksOf document.value).any fun check =>
    check.ownMembers.any fun m => m.1.bytes = statusKey && isText status m.2

def healthVerdict (document : Document) : ExitCode :=
  if hasStatus (str "critical") document then .critical
  else if hasStatus (str "warning") document then .warning
  else .ok

theorem contains_of_isInfix {s pat pat' : Bytes} (hpat : pat <:+: pat') (h : contains s pat' = true)
    : contains s pat = true := by
  rw [contains_iff_isInfix] at h ⊢
  exact hpat.trans h

theorem checkHealth_code (document : Document)
    : (checkHealth document.text).code
        =
      if contains document.text (quote statusKey ++ valueText (str "critical")) then .critical
      else if contains document.text (quote statusKey ++ valueText (str "warning")) then .warning
      else .ok := by
  have hcritical : str "\"Status\":\"critical\"" = quote statusKey ++ valueText (str "critical") := by
    decide
  have hwarning : str "\"Status\":\"warning\"" = quote statusKey ++ valueText (str "warning") := by
    decide
  have hkey : ∀ status, str "Status" <:+: quote statusKey ++ valueText status := by
    intro status
    exact ⟨[34], [34] ++ valueText status, by simp [quote, statusKey, str]⟩
  unfold checkHealth
  rw [hcritical, hwarning]
  dsimp only
  by_cases hmentioned : contains document.text (str "Status") = true
  . rw [if_pos hmentioned]
    split
    . rfl
    . split
      . rfl
      . rfl
  . have hnot : ∀ status, contains document.text (quote statusKey ++ valueText status) = false := by
      intro status
      rw [← Bool.not_eq_true]
      intro h
      exact hmentioned (contains_of_isInfix (hkey status) h)
    rw [if_neg hmentioned, hnot, hnot]
    rfl

/-- Two ladders over critical and warning agree when the rungs that count do. -/
theorem ladder_eq_iff
    : ∀ critical warning critical' warning' : Bool,
        (if critical then ExitCode.critical else if warning then .warning else .ok)
            = (if critical' then .critical else if warning' then .warning else .ok)
          ↔
        (critical' = true ↔ critical = true)
          ∧ (critical' = false → (warning' = true ↔ warning = true)) := by
  decide

theorem checkHealth_eq_verdict_iff (document : Document)
    : (checkHealth document.text).code = healthVerdict document
        ↔
      (hasStatus (str "critical") document = true ↔ Shows (str "critical") document.value)
        ∧ (hasStatus (str "critical") document = false →
          (hasStatus (str "warning") document = true ↔ Shows (str "warning") document.value)) := by
  rw [checkHealth_code, ← contains_document_iff (by decide) (by decide),
    ← contains_document_iff (by decide) (by decide)]
  exact ladder_eq_iff _ _ _ _

theorem health_exact_iff (sslEnabled : Bool) (server : Server) (config : Config)
    (document : Document) (hhost : config.hostname ≠ []) (hmode : config.checkType = str "health")
    (hanswer : httpGet sslEnabled server config.hostname config.port (str "/v1/health/state/any")
      false config.timeoutSeconds = .ok (200, document.text))
    : (check sslEnabled server config).code = healthVerdict document
        ↔
      (hasStatus (str "critical") document = true ↔ Shows (str "critical") document.value)
        ∧ (hasStatus (str "critical") document = false →
          (hasStatus (str "warning") document = true ↔ Shows (str "warning") document.value)) := by
  have hpath : apiPath config.checkType = str "/v1/health/state/any" := by
    rw [hmode]
    decide
  have hok : ¬ ((200 : Int) ≠ 200 ∨ document.text = []) := by
    simp [Document.text_ne_nil]
  have hcheck : check sslEnabled server config = checkHealth document.text := by
    unfold check
    rw [if_neg hhost, hpath, hanswer]
    simp only
    rw [if_neg hok, if_pos hmode]
  rw [hcheck]
  exact checkHealth_eq_verdict_iff document

def healthOf (space : Blank) (status : Raw) : Document where
  value := .array (.element {} {}
    (.object (.member {} {} ⟨statusKey, by decide⟩ {} space (.string status) .noMembers) {})
    .noElements) {}

def criticalStatus : Raw := ⟨str "critical", by decide⟩

theorem health_exact_of_compact
    : (check true (serving (healthOf {} criticalStatus).text (by decide))
          { hostname := str "consul" }).code
        = healthVerdict (healthOf {} criticalStatus) := by
  apply (health_exact_iff true _ _ (healthOf {} criticalStatus) (by decide) rfl _).mpr
  . have hcritical : hasStatus (str "critical") (healthOf {} criticalStatus) = true := by decide
    refine ⟨iff_of_true hcritical ?_, ?_⟩
    . exact ⟨(⟨statusKey, by decide⟩, .string criticalStatus), by simp [healthOf, compactMembers],
        by decide, by decide⟩
    . intro h
      rw [hcritical] at h
      contradiction
  . apply httpGetAuth_serving
    decide

theorem isBlank_space : ∀ c ∈ str " ", isBlank c = true := by
  simp [str, isBlank]

def oneBlank : Blank := ⟨str " ", isBlank_space⟩

/-- One blank behind the colon turns an outage into an OK. -/
theorem health_of_blank
    : (check true (serving (healthOf oneBlank criticalStatus).text (by decide))
          { hostname := str "consul" }).code = .ok
        ∧ healthVerdict (healthOf oneBlank criticalStatus) = .critical := by
  decide +kernel

end ConsulPlugin
end NetmonPlugins

import NetmonPlugins.Cxx.Numeric

/-!
This module contains the grammar of HTTP/1.1 responses: status line, field lines and the three ways
of framing a payload.
-/

namespace NetmonPlugins
namespace Http

def isTokenChar (b : UInt8) : Bool :=
  isDigit b || (65 ≤ b && b ≤ 90) || (97 ≤ b && b ≤ 122) || (str "!#$%&'*+-.^_").contains b
    || b = 96 || b = 124 || b = 126

def isTextChar (b : UInt8) : Bool := b = 9 || (32 ≤ b && b ≠ 127)

structure FieldLine where
  name : Bytes
  -- All that follows the colon, with the optional whitespace.
  value : Bytes
  name_ne_nil : name ≠ []
  name_token : ∀ b ∈ name, isTokenChar b = true
  value_text : ∀ b ∈ value, isTextChar b = true

def FieldLine.text (field : FieldLine) : Bytes := field.name ++ str ":" ++ field.value

structure StatusLine where
  minor : Fin 10
  code : Fin 1000
  reason : Bytes
  reason_text : ∀ b ∈ reason, isTextChar b = true

def digitByte (n : Nat) : UInt8 := UInt8.ofNat (48 + n)

def codeDigits (code : Nat) : Bytes :=
  [digitByte (code / 100), digitByte (code / 10 % 10), digitByte (code % 10)]

def StatusLine.text (status : StatusLine) : Bytes :=
  str "HTTP/1." ++ [digitByte status.minor] ++ str " " ++ codeDigits status.code
    ++ str " " ++ status.reason

structure Head where
  status : StatusLine
  fields : List FieldLine

def Head.lines (head : Head) : List Bytes := head.status.text :: head.fields.map (·.text)

def Head.text (head : Head) : Bytes := head.lines.flatMap (· ++ crlf) ++ crlf

/-- A response up to its blank line with any lines behind the status line. -/
structure Envelope where
  minor : Fin 10
  code : Fin 1000
  reason : Bytes
  headers : List Bytes
  reason_line : ¬ crlf <:+: reason
  headers_line : ∀ line ∈ headers, line ≠ [] ∧ ¬ crlf <:+: line

def Envelope.statusLine (envelope : Envelope) : Bytes :=
  str "HTTP/1." ++ [digitByte envelope.minor] ++ str " " ++ codeDigits envelope.code ++ str " "
    ++ envelope.reason

def Envelope.lines (envelope : Envelope) : List Bytes := envelope.statusLine :: envelope.headers

def Envelope.text (envelope : Envelope) : Bytes := envelope.lines.flatMap (· ++ crlf) ++ crlf

/-- The code in the status line of a response, whose reason phrase may be missing. -/
def statusCodeOf (response : Bytes) : Option Nat :=
  match response.takeWhile (fun b => b ≠ 13 && b ≠ 10) with
  | 72 :: 84 :: 84 :: 80 :: 47 :: major :: 46 :: minor :: 32 :: a :: b :: c :: rest =>
    if [major, minor, a, b, c].all isDigit && (rest = [] || rest.head? = some 32) then
      some (digitsValue [a, b, c])
    else
      none
  | _ => none

def FieldLine.content (field : FieldLine) : Bytes :=
  ((field.value.dropWhile isTabOrSpace).reverse.dropWhile isTabOrSpace).reverse

def Head.fieldsNamed (head : Head) (name : Bytes) : List FieldLine :=
  head.fields.filter fun field => field.name.map toLower = name

def hexDigitValue (b : UInt8) : Option Nat :=
  if isDigit b then some (b.toNat - 48)
  else if 65 ≤ b ∧ b ≤ 70 then some (b.toNat - 55)
  else if 97 ≤ b ∧ b ≤ 102 then some (b.toNat - 87)
  else none

def hexValue (digits : Bytes) : Option Nat :=
  if digits = [] then
    none
  else
    digits.foldlM (fun acc b => (hexDigitValue b).map (acc * 16 + ·)) 0

def IsChunkExt (ext : Bytes) : Prop :=
  (∀ b ∈ ext, isTextChar b = true) ∧ (ext = [] ∨ str ";" <+: ext.dropWhile isTabOrSpace)

instance (ext : Bytes) : Decidable (IsChunkExt ext) :=
  decidable_of_iff
    (ext.all isTextChar = true ∧ (ext = [] ∨ str ";" <+: ext.dropWhile isTabOrSpace)) <| by
      rw [List.all_eq_true, IsChunkExt]

inductive ChunkedBody : Bytes → Bytes → Prop where
  | last (size ext : Bytes) (trailers : List FieldLine) (hsize : hexValue size = some 0)
      (hext : IsChunkExt ext)
      : ChunkedBody []
          (size ++ ext ++ crlf ++ trailers.flatMap (fun field => field.text ++ crlf) ++ crlf)
  | chunk (size ext data payload body : Bytes) (hdata : data ≠ [])
      (hsize : hexValue size = some data.length) (hext : IsChunkExt ext)
      (hrest : ChunkedBody payload body)
      : ChunkedBody (data ++ payload) (size ++ ext ++ crlf ++ data ++ crlf ++ body)

inductive Framing where
  | contentLength
  | close
  | chunked
  deriving DecidableEq

def Carries : Framing → Head → Bytes → Bytes → Prop
  | .contentLength, head, payload, body =>
    head.fieldsNamed (str "transfer-encoding") = []
      ∧
    (∃ field, head.fieldsNamed (str "content-length") = [field]
      ∧ field.content ≠ [] ∧ (∀ b ∈ field.content, isDigit b = true)
      ∧ digitsValue field.content = payload.length)
      ∧
    body = payload
  | .close, head, payload, body =>
    head.fieldsNamed (str "transfer-encoding") = []
      ∧
    head.fieldsNamed (str "content-length") = []
      ∧
    body = payload
  | .chunked, head, payload, body =>
    head.fieldsNamed (str "content-length") = []
      ∧
    (∃ field, head.fieldsNamed (str "transfer-encoding") = [field]
      ∧ field.content.map toLower = str "chunked")
      ∧
    ChunkedBody payload body

theorem ChunkedBody.length_lt {payload body : Bytes} (h : ChunkedBody payload body)
    : payload.length < body.length := by
  induction h with
  | last => simp [crlf]
  | chunk size ext data payload body hdata hsize hext hrest ih =>
    simp only [List.length_append]
    omega

theorem Carries.eq_iff {framing : Framing} {head : Head} {payload body : Bytes}
    (h : Carries framing head payload body)
    : body = payload ↔ framing ≠ .chunked := by
  cases framing with
  | contentLength => simp [h.2.2]
  | close => simp [h.2.2]
  | chunked =>
    simp only [ne_eq, not_true_eq_false, iff_false]
    intro heq
    have := h.2.2.length_lt
    rw [heq] at this
    omega

theorem cr_notMem_of_isTextChar {text : Bytes} (h : ∀ b ∈ text, isTextChar b = true)
    : (13 : UInt8) ∉ text := by
  intro hmem
  have := h 13 hmem
  contradiction

theorem cr_notMem_of_isTokenChar {text : Bytes} (h : ∀ b ∈ text, isTokenChar b = true)
    : (13 : UInt8) ∉ text := by
  intro hmem
  have := h 13 hmem
  revert this
  decide

structure IsLine (line : Bytes) : Prop where
  ne_nil : line ≠ []
  cr_notMem : (13 : UInt8) ∉ line

theorem not_crlf_isInfix {line : Bytes} (h : (13 : UInt8) ∉ line) : ¬ crlf <:+: line := by
  intro hcrlf
  apply h
  apply hcrlf.subset
  simp [crlf]

theorem FieldLine.isLine_text (field : FieldLine) : IsLine field.text where
  ne_nil := by simp [text, str]
  cr_notMem := by
    have hname := cr_notMem_of_isTokenChar field.name_token
    have hvalue := cr_notMem_of_isTextChar field.value_text
    simp [text, str, hname, hvalue]

theorem isDigit_digitByte {n : Nat} (hn : n < 10) : isDigit (digitByte n) = true := by
  have hall : ∀ i : Fin 10, isDigit (digitByte i) = true := by decide
  apply hall ⟨n, hn⟩

theorem digitsValue_codeDigits (code : Nat) (h : code < 1000)
    : digitsValue (codeDigits code) = code := by
  have hdigit (n : Nat) (hn : n < 10) : (digitByte n).toNat = 48 + n := by
    rw [digitByte, UInt8.toNat_ofNat']
    omega
  simp only [digitsValue, codeDigits, List.foldl_cons, List.foldl_nil]
  rw [hdigit _ (by omega), hdigit _ (by omega), hdigit _ (by omega)]
  omega

theorem ne_digitByte (b : UInt8) (n : Nat) (hb : isDigit b = false) (hn : n < 10)
    : b ≠ digitByte n := by
  intro heq
  rw [heq, isDigit_digitByte hn] at hb
  contradiction

theorem notMem_codeDigits (b : UInt8) (code : Fin 1000) (hb : isDigit b = false)
    : b ∉ codeDigits code := by
  have := code.isLt
  have h0 := ne_digitByte b (code / 100) hb (by omega)
  have h1 := ne_digitByte b (code / 10 % 10) hb (by omega)
  have h2 := ne_digitByte b (code % 10) hb (by omega)
  simp [codeDigits, h0, h1, h2]

/-- A line that ends in a carriage return is none of the line end behind it. -/
theorem not_crlf_isPrefix {line : Bytes} (hne : line ≠ []) (h : ¬ crlf <:+: line) (rest : Bytes)
    : ¬ crlf <+: line ++ (crlf ++ rest) := by
  intro hcrlf
  cases line with
  | nil => contradiction
  | cons c line =>
    cases line with
    | nil => simp [crlf] at hcrlf
    | cons d line =>
      apply h
      simp only [crlf, List.cons_append, List.cons_prefix_cons] at hcrlf
      rw [← hcrlf.1, ← hcrlf.2.1]
      exact ⟨[], line, rfl⟩

theorem findFrom_line (line rest : Bytes) (pos : Nat) (h : ¬ crlf <:+: line)
    : findFrom (crlf ++ crlf) (line ++ (crlf ++ rest)) pos
        =
      findFrom (crlf ++ crlf) (crlf ++ rest) (pos + line.length) := by
  induction line generalizing pos with
  | nil => rfl
  | cons c line ih =>
    have hpre : ¬ crlf ++ crlf <+: c :: (line ++ (crlf ++ rest)) := by
      intro hblank
      apply not_crlf_isPrefix (List.cons_ne_nil c line) h rest
      apply (List.prefix_append crlf crlf).trans hblank
    have hline : ¬ crlf <:+: line := by
      intro hcrlf
      apply h
      apply hcrlf.trans
      apply (List.suffix_cons c line).isInfix
    rw [List.cons_append, findFrom, if_neg hpre, ih _ hline, List.length_cons]
    congr 1
    omega

theorem findFrom_lineEnd (rest : Bytes) (pos : Nat) (h : ¬ crlf <+: rest)
    : findFrom (crlf ++ crlf) (crlf ++ rest) pos
        =
      findFrom (crlf ++ crlf) rest (pos + 2) := by
  have hcr : ¬ crlf ++ crlf <+: 13 :: 10 :: rest := by
    simpa [crlf] using h
  have hlf : ¬ crlf ++ crlf <+: 10 :: rest := by
    simp [crlf]
  have hcons : crlf ++ rest = 13 :: 10 :: rest := rfl
  rw [hcons, findFrom, if_neg hcr, findFrom, if_neg hlf]

def joinLines : List Bytes → Bytes
  | [] => []
  | [line] => line
  | line :: lines => line ++ crlf ++ joinLines lines

theorem flatMap_eq_joinLines (lines : List Bytes) (h : lines ≠ [])
    : lines.flatMap (· ++ crlf) = joinLines lines ++ crlf := by
  induction lines with
  | nil => contradiction
  | cons line lines ih =>
    cases lines with
    | nil => simp [joinLines]
    | cons line' lines' =>
      rw [List.flatMap_cons, ih (by simp)]
      simp [joinLines]

theorem joinLines_cons (line : Bytes) (lines : List Bytes) (rest : Bytes)
    : ∃ more, joinLines (line :: lines) ++ (crlf ++ rest) = line ++ (crlf ++ more) := by
  cases lines with
  | nil => exact ⟨rest, rfl⟩
  | cons line' lines' =>
    exact ⟨joinLines (line' :: lines') ++ (crlf ++ rest), by simp [joinLines]⟩

theorem findFrom_blankLine (line : Bytes) (lines : List Bytes) (body : Bytes) (pos : Nat)
    (hline : ¬ crlf <:+: line) (hlines : ∀ line ∈ lines, line ≠ [] ∧ ¬ crlf <:+: line)
    : findFrom (crlf ++ crlf) (joinLines (line :: lines) ++ (crlf ++ (crlf ++ body))) pos
        =
      some (pos + (joinLines (line :: lines)).length) := by
  induction lines generalizing line pos with
  | nil =>
    rw [joinLines, findFrom_line _ _ _ hline]
    apply findFrom_of_prefix
    simp
  | cons line' lines' ih =>
    have hline' := hlines line' List.mem_cons_self
    obtain ⟨more, hmore⟩ := joinLines_cons line' lines' (crlf ++ body)
    have hnext : ¬ crlf <+: joinLines (line' :: lines') ++ (crlf ++ (crlf ++ body)) := by
      rw [hmore]
      apply not_crlf_isPrefix hline'.1 hline'.2
    have htext : joinLines (line :: line' :: lines') ++ (crlf ++ (crlf ++ body))
        = line ++ (crlf ++ (joinLines (line' :: lines') ++ (crlf ++ (crlf ++ body)))) := by
      simp [joinLines]
    rw [htext, findFrom_line _ _ _ hline, findFrom_lineEnd _ _ hnext,
      ih _ _ hline'.2 fun line hline => hlines line (List.mem_cons_of_mem _ hline)]
    simp only [joinLines, crlf, List.length_append, List.length_cons, List.length_nil]
    congr 1
    omega

theorem Envelope.text_eq_joinLines (envelope : Envelope)
    : envelope.text = joinLines envelope.lines ++ crlf ++ crlf := by
  unfold Envelope.text Envelope.lines
  rw [flatMap_eq_joinLines _ (List.cons_ne_nil _ _)]

theorem crlf_isInfix_of_append {before line : Bytes} (h : (13 : UInt8) ∉ before)
    (hcrlf : crlf <:+: before ++ line)
    : crlf <:+: line := by
  induction before with
  | nil => exact hcrlf
  | cons c before ih =>
    rw [List.mem_cons, not_or] at h
    rw [List.cons_append, List.infix_cons_iff] at hcrlf
    apply ih h.2
    apply hcrlf.resolve_left
    rw [crlf, List.cons_prefix_cons, not_and]
    intro hc
    exact absurd hc h.1

theorem Envelope.not_crlf_statusLine (envelope : Envelope) : ¬ crlf <:+: envelope.statusLine := by
  intro hcrlf
  have hminor := ne_digitByte 13 envelope.minor (by decide) envelope.minor.isLt
  have hcode := notMem_codeDigits 13 envelope.code (by decide)
  apply envelope.reason_line
  apply crlf_isInfix_of_append _ hcrlf
  simp [str, hminor, hcode]

theorem Envelope.find_blankLine (envelope : Envelope) (body : Bytes)
    : find (envelope.text ++ body) (crlf ++ crlf) 0 = some (joinLines envelope.lines).length := by
  rw [envelope.text_eq_joinLines, find_zero]
  simp only [List.append_assoc]
  unfold Envelope.lines
  rw [findFrom_blankLine _ _ _ _ envelope.not_crlf_statusLine envelope.headers_line]
  simp

def Head.envelope (head : Head) : Envelope where
  minor := head.status.minor
  code := head.status.code
  reason := head.status.reason
  headers := head.fields.map (·.text)
  reason_line := not_crlf_isInfix (cr_notMem_of_isTextChar head.status.reason_text)
  headers_line := by
    intro line hline
    obtain ⟨field, _, rfl⟩ := List.mem_map.mp hline
    exact ⟨field.isLine_text.ne_nil, not_crlf_isInfix field.isLine_text.cr_notMem⟩

end Http
end NetmonPlugins

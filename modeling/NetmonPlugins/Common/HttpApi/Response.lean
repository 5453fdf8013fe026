import NetmonPlugins.Common.HttpApi.Receive
import NetmonPlugins.Cxx.Digits
import NetmonPlugins.Rfc.Http

/-!
This module shows what the two response parsers make of a well-formed HTTP/1.x response: the code of
the status line and the bytes behind the blank line.
-/

namespace NetmonPlugins
namespace httpGetAuth

theorem codeText_eq_some (version text rest : Bytes) (hhttp : str "HTTP/" <+: version)
    (hversion : (32 : UInt8) ∉ version) (htext : (32 : UInt8) ∉ text)
    : codeText (version ++ 32 :: (text ++ 32 :: rest)) = some text := by
  have hstatus : find (version ++ 32 :: (text ++ 32 :: rest)) (str "HTTP/") 0 = some 0 := by
    rw [find_zero, findFrom_of_prefix]
    apply hhttp.trans
    apply List.prefix_append
  have hstart : find (version ++ 32 :: (text ++ 32 :: rest)) (str " ") 0 = some version.length := by
    rw [find_zero]
    rw [show str " " = 32 :: [] from rfl]
    rw [findFrom_append_of_notMem 32 _ _ _ _ hversion, findFrom_of_prefix]
    . simp
    . simp
  have hdrop : (version ++ 32 :: (text ++ 32 :: rest)).drop (version.length + 1)
      = text ++ 32 :: rest := by
    rw [List.drop_append]
    simp
  have hend : find (version ++ 32 :: (text ++ 32 :: rest)) (str " ") (version.length + 1)
      = some (version.length + 1 + text.length) := by
    unfold find
    rw [if_pos (by simp), hdrop]
    rw [show str " " = 32 :: [] from rfl]
    rw [findFrom_append_of_notMem 32 _ _ _ _ htext, findFrom_of_prefix]
    simp
  unfold codeText
  simp only [hstatus, hstart, afterPos, hend, substr, hdrop]
  simp

theorem codeText_joinLines (envelope : Http.Envelope)
    : codeText (Http.joinLines envelope.lines) = some (Http.codeDigits envelope.code) := by
  have hminor := Http.ne_digitByte 32 envelope.minor (by decide) envelope.minor.isLt
  obtain ⟨more, hmore⟩ : ∃ more, Http.joinLines envelope.lines = envelope.statusLine ++ more := by
    unfold Http.Envelope.lines
    cases envelope.headers with
    | nil => exact ⟨[], by simp [Http.joinLines]⟩
    | cons line lines =>
      exact ⟨crlf ++ Http.joinLines (line :: lines), by simp [Http.joinLines]⟩
  have htext : envelope.statusLine ++ more
      = (str "HTTP/1." ++ [Http.digitByte envelope.minor])
          ++ 32 :: (Http.codeDigits envelope.code ++ 32 :: (envelope.reason ++ more)) := by
    simp [Http.Envelope.statusLine, str]
  rw [hmore, htext]
  apply codeText_eq_some
  . exact ⟨str "1." ++ [Http.digitByte envelope.minor], rfl⟩
  . simp [str, hminor]
  . apply Http.notMem_codeDigits
    decide

theorem stoi_codeDigits (code : Fin 1000)
    : stoi (Http.codeDigits code) = .ok (code.val : Int) := by
  have hcode := code.isLt
  have hvalue := Http.digitsValue_codeDigits code hcode
  unfold stoi
  rw [stoInteger_of_isDigit]
  . rw [hvalue]
  . simp [Http.codeDigits]
  . simp only [Http.codeDigits, List.forall_mem_cons, List.not_mem_nil, false_implies,
      implies_true, and_true]
    refine ⟨?_, ?_, ?_⟩
    . apply Http.isDigit_digitByte
      omega
    . apply Http.isDigit_digitByte
      omega
    . apply Http.isDigit_digitByte
      omega
  . omega
  . omega

theorem substr_envelope (envelope : Http.Envelope) (body : Bytes)
    : substr (envelope.text ++ body) 0 (Http.joinLines envelope.lines).length
        =
      Http.joinLines envelope.lines := by
  rw [envelope.text_eq_joinLines]
  simp [substr]

theorem drop_envelope (envelope : Http.Envelope) (body : Bytes)
    : (envelope.text ++ body).drop ((Http.joinLines envelope.lines).length + 4) = body := by
  have hlen : (Http.joinLines envelope.lines).length + 4 = envelope.text.length := by
    rw [envelope.text_eq_joinLines]
    simp [crlf]
  rw [hlen]
  apply List.drop_left

theorem parsePlain_envelope (envelope : Http.Envelope) (body : Bytes)
    : parsePlain (envelope.text ++ body) = ((envelope.code.val : Int), body) := by
  unfold parsePlain
  rw [envelope.find_blankLine]
  simp only [substr_envelope, drop_envelope, codeText_joinLines, stoi_codeDigits]

theorem parseTls_envelope (envelope : Http.Envelope) (body : Bytes)
    : parseTls (envelope.text ++ body) = .ok ((envelope.code.val : Int), body) := by
  unfold parseTls
  rw [envelope.find_blankLine]
  simp only [substr_envelope, drop_envelope, codeText_joinLines, stoi_codeDigits]

theorem parse_envelope (tls : Bool) (envelope : Http.Envelope) (body : Bytes)
    : parse tls (envelope.text ++ body) = .ok ((envelope.code.val : Int), body) := by
  unfold parse
  split
  . apply parseTls_envelope
  . rw [parsePlain_envelope]

end httpGetAuth

theorem httpGetAuth_of_text (sslEnabled : Bool) (server : Server) (host : Bytes) (port : Int)
    (path : Bytes) (useSSL : Bool) (timeout : Int) (username password : Bytes)
    (chunks : List (Chunk 8191)) (envelope : Http.Envelope) (body : Bytes)
    (hserver : server (sslEnabled && useSSL)
      (httpGetAuth.request host port path username password) = .stream chunks)
    (hstream : streamOf chunks = envelope.text ++ body)
    (hnul : (0 : UInt8) ∉ envelope.text ++ body)
    : httpGetAuth sslEnabled server host port path useSSL timeout username password
        =
      .ok ((envelope.code.val : Int), body) := by
  rw [← hstream] at hnul
  rw [httpGetAuth_of_stream _ _ _ _ _ _ _ _ _ _ hserver, recvLoop_of_notMem _ hnul, hstream,
    httpGetAuth.parse_envelope]

theorem httpGetAuth_of_response (sslEnabled : Bool) (server : Server) (host : Bytes) (port : Int)
    (path : Bytes) (useSSL : Bool) (timeout : Int) (username password : Bytes)
    (chunks : List (Chunk 8191)) (head : Http.Head) (body : Bytes)
    (hserver : server (sslEnabled && useSSL)
      (httpGetAuth.request host port path username password) = .stream chunks)
    (hstream : streamOf chunks = head.text ++ body)
    (hnul : (0 : UInt8) ∉ head.text ++ body)
    : httpGetAuth sslEnabled server host port path useSSL timeout username password
        =
      .ok ((head.status.code.val : Int), body) :=
  httpGetAuth_of_text _ _ _ _ _ _ _ _ _ _ head.envelope _ hserver hstream hnul

/-- The plain parse finds the code of the status line and the bytes behind the first blank line. -/
theorem httpGetAuth_of_envelope (sslEnabled : Bool) (server : Server) (host : Bytes) (port : Int)
    (path : Bytes) (useSSL : Bool) (timeout : Int) (username password : Bytes)
    (chunks : List (Chunk 8191)) (envelope : Http.Envelope) (rest : Bytes)
    (hplain : (sslEnabled && useSSL) = false)
    (hserver : server false (httpGetAuth.request host port path username password)
      = .stream chunks)
    (hstream : streamOf chunks = envelope.text ++ rest)
    (hnul : (0 : UInt8) ∉ envelope.text ++ rest)
    : httpGetAuth.parsePlain (envelope.text ++ rest) = ((envelope.code.val : Int), rest)
        ∧
      httpGetAuth sslEnabled server host port path useSSL timeout username password
          =
        .ok ((envelope.code.val : Int), rest) := by
  constructor
  . apply httpGetAuth.parsePlain_envelope
  . rw [← hplain] at hserver
    apply httpGetAuth_of_text _ _ _ _ _ _ _ _ _ _ _ _ hserver hstream hnul

def relayed : Http.Envelope where
  minor := 1
  code := 404
  reason := []
  headers := [str "Via: HTTP/1.1 relay", str "X-Note: a 200 b"]
  reason_line := by decide
  headers_line := by decide

def relayedRest : Bytes := str "first

HTTP/1.1 500 late"

/-- An empty reason phrase, field values like status lines and another blank line in the body. -/
theorem httpGetAuth_of_relayed
    : httpGetAuth.parsePlain (relayed.text ++ relayedRest) = (404, relayedRest)
        ∧
      httpGetAuth true
          (fun _ _ => .stream [{
            data := relayed.text ++ relayedRest
            ne_nil := by decide
            length_le := by decide }])
          (str "relay") 80 (str "/") false 10 [] []
        =
      .ok (404, relayedRest) := by
  apply httpGetAuth_of_envelope true _ (str "relay") 80 (str "/") false 10 [] [] _ relayed
    relayedRest rfl rfl (by simp [streamOf])
  decide

def okEnvelope : Http.Envelope where
  minor := 1
  code := 200
  reason := str "OK"
  headers := [str "Content-Type: application/json"]
  reason_line := Http.not_crlf_isInfix (by decide)
  headers_line := by decide

/-- A server that answers every request with one body. -/
def serving (body : Bytes) (h : (okEnvelope.text ++ body).length ≤ 8191) : Server :=
  fun _ _ => .stream [{
    data := okEnvelope.text ++ body
    ne_nil := by simp [Http.Envelope.text, crlf]
    length_le := h }]

theorem httpGetAuth_serving (sslEnabled : Bool) (body : Bytes)
    (h : (okEnvelope.text ++ body).length ≤ 8191) (host : Bytes) (port : Int) (path : Bytes)
    (useSSL : Bool) (timeout : Int) (username password : Bytes) (hnul : (0 : UInt8) ∉ body)
    : httpGetAuth sslEnabled (serving body h) host port path useSSL timeout username password
        =
      .ok (200, body) := by
  have henvelope : (0 : UInt8) ∉ okEnvelope.text := by decide
  apply httpGetAuth_of_text _ _ _ _ _ _ _ _ _ _ okEnvelope body rfl
  . simp [streamOf]
  . simp [henvelope, hnul]

theorem httpGetAuth_eq_payload_iff (sslEnabled : Bool) (server : Server) (host : Bytes) (port : Int)
    (path : Bytes) (useSSL : Bool) (timeout : Int) (username password : Bytes)
    (chunks : List (Chunk 8191)) (framing : Http.Framing) (head : Http.Head) (payload body : Bytes)
    (hserver : server (sslEnabled && useSSL)
      (httpGetAuth.request host port path username password) = .stream chunks)
    (hstream : streamOf chunks = head.text ++ body)
    (hcarries : Http.Carries framing head payload body)
    (hcode : head.status.code = 200)
    (hnul : (0 : UInt8) ∉ head.text ++ body)
    : httpGetAuth sslEnabled server host port path useSSL timeout username password
        =
      .ok (200, payload)
        ↔
      framing ≠ .chunked := by
  rw [httpGetAuth_of_response _ _ _ _ _ _ _ _ _ _ _ _ hserver hstream hnul, hcode]
  rw [← hcarries.eq_iff]
  simp only [Except.ok.injEq, Prod.mk.injEq]
  constructor
  . intro h
    exact h.2
  . intro h
    exact ⟨rfl, h⟩

def okStatus : Http.StatusLine where
  minor := 1
  code := 200
  reason := str "OK"
  reason_text := List.all_eq_true.mp (by decide)

def closeHead : Http.Head where
  status := okStatus
  fields := []

theorem httpGetAuth_eq_payload_of_close
    : httpGetAuth true
          (fun _ _ => .stream [{
            data := closeHead.text ++ str "\x7b\x7d"
            ne_nil := by decide
            length_le := by decide }])
          (str "consul") 8500 (str "/v1/catalog/services") false 10 [] []
        =
      .ok (200, str "\x7b\x7d") := by
  apply (httpGetAuth_eq_payload_iff true _ (str "consul") 8500 (str "/v1/catalog/services") false 10
    [] [] _ .close closeHead (str "\x7b\x7d") (str "\x7b\x7d") rfl (by simp [streamOf])
    ⟨rfl, rfl, rfl⟩ rfl (by decide)).mpr
  decide

end NetmonPlugins

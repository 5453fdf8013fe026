import NetmonPlugins.Common.HttpApi.Impl

/-!
This module determines when the receive loops of `httpGetAuth` keep every byte, and when the parsers
at the ends of its two branches agree.
-/

namespace NetmonPlugins

theorem zero_notMem_cstr (buffer : Bytes) : (0 : UInt8) ∉ cstr buffer := by
  intro hmem
  have := List.mem_takeWhile_imp hmem
  simp at this

theorem recvLoop_eq_streamOf_iff (chunks : List (Chunk size))
    : recvLoop chunks [] = streamOf chunks ↔ (0 : UInt8) ∉ streamOf chunks := by
  constructor
  . intro h
    rw [← h, recvLoop_eq_append, List.nil_append, List.mem_flatMap]
    rintro ⟨chunk, _, hzero⟩
    exact zero_notMem_cstr _ hzero
  . apply recvLoop_of_notMem

/-- What each segment carries of the stream behind its first `skipped` bytes. -/
def shares (skipped : Nat) : List (Chunk size) → List Bytes
  | [] => []
  | chunk :: chunks => chunk.data.drop skipped :: shares (skipped - chunk.data.length) chunks

theorem cstr_append_of_notMem {before : Bytes} (h : (0 : UInt8) ∉ before) (rest : Bytes)
    : cstr (before ++ rest) = before ++ cstr rest := by
  unfold cstr
  apply List.takeWhile_append_of_pos
  intro b hb
  simp only [ne_eq, decide_eq_true_eq]
  intro hzero
  exact h (hzero ▸ hb)

theorem shares_zero (chunks : List (Chunk size)) : shares 0 chunks = chunks.map (·.data) := by
  induction chunks with
  | nil => rfl
  | cons chunk chunks ih => rw [shares, Nat.zero_sub, ih, List.drop_zero, List.map_cons]

theorem recvLoop_of_append (chunks : List (Chunk size)) (head rest : Bytes)
    (hstream : streamOf chunks = head ++ rest) (hhead : (0 : UInt8) ∉ head)
    : recvLoop chunks [] = head ++ (shares head.length chunks).flatMap cstr := by
  rw [recvLoop_eq_append, List.nil_append]
  induction chunks generalizing head with
  | nil =>
    obtain ⟨hnil, _⟩ := List.append_eq_nil_iff.mp hstream.symm
    rw [hnil]
    rfl
  | cons chunk chunks ih =>
    have hcons : chunk.data ++ streamOf chunks = head ++ rest := hstream
    rw [shares, List.flatMap_cons, List.flatMap_cons]
    rcases List.append_eq_append_iff.mp hcons with ⟨before, hbefore, hrest⟩ | ⟨after, hafter, _⟩
    . have hnul : (0 : UInt8) ∉ chunk.data ∧ (0 : UInt8) ∉ before := by
        rw [hbefore, List.mem_append, not_or] at hhead
        exact hhead
      rw [ih before hrest hnul.2, cstr_of_notMem _ hnul.1, hbefore]
      simp [cstr]
    . have hskipped : head.length - chunk.data.length = 0 := by
        rw [hafter, List.length_append]
        omega
      rw [hskipped, shares_zero, hafter, cstr_append_of_notMem hhead, List.drop_left,
        List.flatMap_map, List.append_assoc]

namespace httpGetAuth

/-- The end of the branch for TLS and the end of the plain branch. -/
def parse (tls : Bool) (fullResponse : Bytes) : Except StdException (Int × Bytes) :=
  if tls then parseTls fullResponse else .ok (parsePlain fullResponse)

def statusText (fullResponse : Bytes) : Option Bytes :=
  match find fullResponse (crlf ++ crlf) 0 with
  | none => none
  | some headerEnd => codeText (substr fullResponse 0 headerEnd)

theorem parseTls_eq_parsePlain_iff (fullResponse : Bytes)
    : parseTls fullResponse = .ok (parsePlain fullResponse)
        ↔
      ∀ text, statusText fullResponse = some text → (stoi text).isOk = true := by
  unfold parseTls parsePlain statusText
  cases find fullResponse (crlf ++ crlf) 0 with
  | none => simp
  | some headerEnd =>
    simp only
    cases codeText (substr fullResponse 0 headerEnd) with
    | none => simp
    | some text =>
      simp only [Option.some.injEq, forall_eq']
      cases stoi text with
      | ok statusCode => simp [Except.isOk, Except.toBool]
      | error e => simp [Except.isOk, Except.toBool]

/-- A code that is no number is an exception for one scheme and the code 0 for the other. -/
theorem parseTls_ne_parsePlain
    : parseTls (str "HTTP/1.1 two OK\r\n\r\nbody") = .error (.invalidArgument (str "stoi"))
        ∧ parsePlain (str "HTTP/1.1 two OK\r\n\r\nbody") = (0, str "body")
        ∧ parseTls (str "HTTP/1.1 two OK\r\n\r\nbody")
          ≠ .ok (parsePlain (str "HTTP/1.1 two OK\r\n\r\nbody")) := by
  decide

end httpGetAuth

theorem httpGetAuth_of_stream (sslEnabled : Bool) (server : Server) (host : Bytes) (port : Int)
    (path : Bytes) (useSSL : Bool) (timeout : Int) (username password : Bytes)
    (chunks : List (Chunk 8191))
    (hserver : server (sslEnabled && useSSL)
      (httpGetAuth.request host port path username password) = .stream chunks)
    : httpGetAuth sslEnabled server host port path useSSL timeout username password
        =
      httpGetAuth.parse (sslEnabled && useSSL) (recvLoop chunks []) := by
  unfold httpGetAuth httpGetAuth.parse
  split
  . next hssl =>
    rw [hssl] at hserver
    simp only [hserver]
  . next hssl =>
    rw [Bool.not_eq_true] at hssl
    rw [hssl] at hserver
    simp only [hserver]

theorem fullResponse_eq_stream_iff (sslEnabled : Bool) (server : Server) (host : Bytes) (port : Int)
    (path : Bytes) (useSSL : Bool) (timeout : Int) (username password : Bytes)
    (chunks : List (Chunk 8191))
    (hserver : server (sslEnabled && useSSL)
      (httpGetAuth.request host port path username password) = .stream chunks)
    : (recvLoop chunks [] = streamOf chunks ↔ (0 : UInt8) ∉ streamOf chunks)
        ∧ ((0 : UInt8) ∉ streamOf chunks →
          httpGetAuth sslEnabled server host port path useSSL timeout username password
            = httpGetAuth.parse (sslEnabled && useSSL) (streamOf chunks)) := by
  have hiff := recvLoop_eq_streamOf_iff chunks
  refine ⟨hiff, ?_⟩
  intro hnul
  rw [httpGetAuth_of_stream _ _ _ _ _ _ _ _ _ _ hserver, hiff.mpr hnul]

def plainText : List (Chunk 8191) :=
  [{ data := str "HTTP/1.1 200 OK\r\nContent-Length: 5\r\n\r\n"
     ne_nil := by decide
     length_le := by decide },
   { data := str "hello"
     ne_nil := by decide
     length_le := by decide }]

theorem fullResponse_of_plainText
    : httpGetAuth true (fun _ _ => .stream plainText) (str "www") 80 (str "/") false 10 [] []
        =
      httpGetAuth.parse false (streamOf plainText) := by
  apply (fullResponse_eq_stream_iff true (fun _ _ => .stream plainText) (str "www") 80 (str "/")
    false 10 [] [] plainText rfl).2
  decide

/-- A body with a zero byte, cut behind that byte. -/
def binaryBody : List (Chunk 8191) :=
  [{ data := str "HTTP/1.1 200 OK\r\n\r\n" ++ [1, 0]
     ne_nil := by decide
     length_le := by decide },
   { data := [2]
     ne_nil := by decide
     length_le := by decide }]

theorem fullResponse_ne_stream
    : recvLoop binaryBody [] ≠ streamOf binaryBody
        ∧ httpGetAuth true (fun _ _ => .stream binaryBody) (str "www") 80 (str "/") false 10 [] []
          = .ok (200, [1, 2])
        ∧ httpGetAuth.parse false (streamOf binaryBody) = .ok (200, [1, 0, 2]) := by
  decide

end NetmonPlugins

import NetmonPlugins.Cxx.Bytes

/-!
This module contains the view a check has of a stream socket: whether the connection was set up and
what the successive calls of `recv` or `SSL_read` return. Around a request, some checks read the
time of day.
-/

namespace NetmonPlugins

/-- What `gettimeofday` fills in. -/
structure Timeval where
  tv_sec : Int
  tv_usec : Int
  deriving DecidableEq

structure Chunk (size : Nat) where
  data : Bytes
  ne_nil : data ≠ []
  length_le : data.length ≤ size

/--
The run of a connection after the request was written. A peer that closes the connection, an error
and a timeout all end the list of chunks.
-/
inductive Connection (size : Nat) where
  | failed
  | stream (chunks : List (Chunk size))

def streamOf (chunks : List (Chunk size)) : Bytes := chunks.flatMap (·.data)

/-- `while ((bytes = recv(..)) > 0) { buffer[bytes] = '\0'; fullResponse += buffer; }` -/
def recvLoop (chunks : List (Chunk size)) (fullResponse : Bytes) : Bytes :=
  match chunks with
  | [] => fullResponse
  | chunk :: chunks => recvLoop chunks (fullResponse ++ cstr chunk.data)

def segment (size : Nat) (hsize : 0 < size) (bytes : Bytes) : List (Chunk size) :=
  if hbytes : bytes = [] then
    []
  else
    { data := bytes.take size
      ne_nil := by
        rw [ne_eq, List.take_eq_nil_iff, not_or]
        exact ⟨by omega, hbytes⟩
      length_le := List.length_take_le size bytes } :: segment size hsize (bytes.drop size)
termination_by bytes.length
decreasing_by
  have := List.length_pos_of_ne_nil hbytes
  rw [List.length_drop]
  omega

theorem streamOf_segment (size : Nat) (hsize : 0 < size) (bytes : Bytes)
    : streamOf (segment size hsize bytes) = bytes := by
  induction bytes using segment.induct size hsize with
  | case1 =>
    rw [segment, dif_pos rfl]
    rfl
  | case2 bytes hbytes ih =>
    unfold streamOf at ih ⊢
    rw [segment, dif_neg hbytes, List.flatMap_cons, ih]
    apply List.take_append_drop

theorem recvLoop_eq_append (chunks : List (Chunk size)) (fullResponse : Bytes)
    : recvLoop chunks fullResponse = fullResponse ++ chunks.flatMap (fun c => cstr c.data) := by
  induction chunks generalizing fullResponse with
  | nil => simp [recvLoop]
  | cons chunk chunks ih =>
    rw [recvLoop, ih]
    simp

theorem recvLoop_of_notMem (chunks : List (Chunk size)) (h : (0 : UInt8) ∉ streamOf chunks)
    : recvLoop chunks [] = streamOf chunks := by
  rw [recvLoop_eq_append]
  unfold streamOf at *
  rw [List.nil_append]
  apply List.flatMap_congr
  intro chunk hchunk
  apply cstr_of_notMem
  intro hzero
  apply h
  apply List.mem_flatMap_of_mem hchunk hzero

theorem recvLoop_segment (size : Nat) (hsize : 0 < size) (bytes : Bytes) (h : (0 : UInt8) ∉ bytes)
    : recvLoop (segment size hsize bytes) [] = bytes := by
  rw [recvLoop_of_notMem]
  . apply streamOf_segment
  . rwa [streamOf_segment]

end NetmonPlugins

import NetmonPlugins.Cxx.Digits

/-!
This module contains the messages of the Redis protocol: a request is an array of bulk strings, a
reply is a line or a bulk string.
-/

namespace NetmonPlugins
namespace Resp

def bulk (payload : Bytes) : Bytes :=
  str "$" ++ natDec payload.length ++ crlf ++ payload ++ crlf

def array (args : List Bytes) : Bytes :=
  str "*" ++ natDec args.length ++ crlf ++ args.flatMap bulk

/-- The marker, a number and a line end; what follows them. -/
def takeCount (marker : UInt8) : Bytes → Option (Nat × Bytes)
  | [] => none
  | b :: rest =>
    if b = marker ∧ rest.takeWhile isDigit ≠ [] then
      match rest.dropWhile isDigit with
      | 13 :: 10 :: rest' => some (digitsValue (rest.takeWhile isDigit), rest')
      | _ => none
    else
      none

def takeBulk (input : Bytes) : Option (Bytes × Bytes) :=
  match takeCount 36 input with
  | none => none
  | some (length, rest) =>
    if length ≤ rest.length then
      match rest.drop length with
      | 13 :: 10 :: rest' => some (rest.take length, rest')
      | _ => none
    else
      none

def takeBulks : Nat → Bytes → Option (List Bytes × Bytes)
  | 0, input => some ([], input)
  | count + 1, input =>
    match takeBulk input with
    | none => none
    | some (payload, rest) =>
      match takeBulks count rest with
      | none => none
      | some (payloads, rest') => some (payload :: payloads, rest')

/-- The arguments of a request, if the input is one request and nothing else. -/
def decodeArray (input : Bytes) : Option (List Bytes) :=
  match takeCount 42 input with
  | none => none
  | some (count, rest) =>
    match takeBulks count rest with
    | some (args, []) => some args
    | _ => none

theorem takeCount_natDec (marker : UInt8) (n : Nat) (rest : Bytes)
    : takeCount marker (marker :: natDec n ++ crlf ++ rest) = some (n, rest) := by
  have hrest : ∀ b ∈ (crlf ++ rest).head?, isDigit b = false := by
    intro b hb
    cases hb
    rfl
  rw [List.cons_append, List.cons_append, List.append_assoc, takeCount, takeWhile_natDec _ _ hrest,
    dropWhile_natDec _ _ hrest, if_pos ⟨rfl, natDec_ne_nil n⟩]
  simp only [crlf, List.cons_append, List.nil_append, digitsValue_natDec]

theorem takeBulk_bulk (payload rest : Bytes)
    : takeBulk (bulk payload ++ rest) = some (payload, rest) := by
  have hbulk : bulk payload ++ rest
      = 36 :: natDec payload.length ++ crlf ++ (payload ++ (crlf ++ rest)) := by
    unfold bulk
    simp only [List.append_assoc]
    rfl
  rw [hbulk, takeBulk, takeCount_natDec]
  dsimp only
  rw [if_pos (by rw [List.length_append]; omega), List.drop_left, List.take_left]
  rfl

theorem takeBulks_flatMap (args : List Bytes) (rest : Bytes)
    : takeBulks args.length (args.flatMap bulk ++ rest) = some (args, rest) := by
  induction args with
  | nil => rfl
  | cons arg args ih =>
    rw [List.flatMap_cons, List.append_assoc, List.length_cons, takeBulks, takeBulk_bulk]
    dsimp only
    rw [ih]

theorem decodeArray_array (args : List Bytes) : decodeArray (array args) = some args := by
  have harray : array args = 42 :: natDec args.length ++ crlf ++ args.flatMap bulk := rfl
  have hbulks := takeBulks_flatMap args []
  rw [List.append_nil] at hbulks
  rw [harray, decodeArray, takeCount_natDec]
  dsimp only
  rw [hbulks]

structure LineText where
  text : Bytes
  zero_notMem : (0 : UInt8) ∉ text
  cr_notMem : (13 : UInt8) ∉ text
  lf_notMem : (10 : UInt8) ∉ text

structure Payload where
  data : Bytes
  zero_notMem : (0 : UInt8) ∉ data

inductive Reply where
  | simple (line : LineText)
  | error (line : LineText)
  | integer (value : Int)
  | bulk (payload : Payload)

def Reply.bytes : Reply → Bytes
  | .simple line => str "+" ++ line.text ++ crlf
  | .error line => str "-" ++ line.text ++ crlf
  | .integer value => str ":" ++ intDec value ++ crlf
  | .bulk payload => Resp.bulk payload.data

theorem zero_notMem_natDec (n : Nat) : (0 : UInt8) ∉ natDec n := by
  intro h
  have := isDigit_of_mem_natDec h
  contradiction

theorem zero_notMem_intDec (value : Int) : (0 : UInt8) ∉ intDec value := by
  unfold intDec
  split
  . rw [List.mem_append, not_or]
    exact ⟨by decide, zero_notMem_natDec _⟩
  . apply zero_notMem_natDec

theorem Reply.zero_notMem (reply : Reply) : (0 : UInt8) ∉ reply.bytes := by
  have hcrlf : (0 : UInt8) ∉ crlf := by decide
  cases reply with
  | simple line =>
    simp only [bytes, List.mem_append, not_or]
    exact ⟨⟨by decide, line.zero_notMem⟩, hcrlf⟩
  | error line =>
    simp only [bytes, List.mem_append, not_or]
    exact ⟨⟨by decide, line.zero_notMem⟩, hcrlf⟩
  | integer value =>
    simp only [bytes, List.mem_append, not_or]
    exact ⟨⟨by decide, zero_notMem_intDec value⟩, hcrlf⟩
  | bulk payload =>
    simp only [bytes, Resp.bulk, List.mem_append, not_or]
    exact ⟨⟨⟨⟨by decide, zero_notMem_natDec _⟩, hcrlf⟩, payload.zero_notMem⟩, hcrlf⟩

end Resp
end NetmonPlugins

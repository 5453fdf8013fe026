import NetmonPlugins.Cxx.Format

/-!
This module contains the throwing string conversions of the standard library with the exceptions
they throw, and how the checks read the text of a file: line by line, and a number at a time by
`sscanf` or `operator>>`.
-/

namespace NetmonPlugins

inductive StdException where
  | invalidArgument (what : Bytes)
  | outOfRange (what : Bytes)
  | runtimeError (what : Bytes)
  deriving DecidableEq

def StdException.what : StdException → Bytes
  | .invalidArgument what => what
  | .outOfRange what => what
  | .runtimeError what => what

def isSpace (b : UInt8) : Bool := b = 32 || (9 ≤ b && b ≤ 13)

def isDigit (b : UInt8) : Bool := 48 ≤ b && b ≤ 57

def digitsValue (digits : Bytes) : Nat :=
  digits.foldl (fun acc b => acc * 10 + (b.toNat - 48)) 0

def takeSign : Bytes → Bool × Bytes
  | 43 :: rest => (false, rest)
  | 45 :: rest => (true, rest)
  | text => (false, text)

def stoInteger (name : Bytes) (lo hi : Int) (text : Bytes) : Except StdException Int :=
  let (negative, rest) := takeSign (text.dropWhile isSpace)
  let digits := rest.takeWhile isDigit
  if digits = [] then
    .error (.invalidArgument name)
  else
    let value : Int := if negative then -digitsValue digits else digitsValue digits
    if lo ≤ value ∧ value ≤ hi then .ok value else .error (.outOfRange name)

def stoi (text : Bytes) : Except StdException Int :=
  stoInteger (str "stoi") (-2 ^ 31) (2 ^ 31 - 1) text

def stoll (text : Bytes) : Except StdException Int :=
  stoInteger (str "stoll") (-2 ^ 63) (2 ^ 63 - 1) text

/-- A `long` has 64 bits on Linux. -/
def stol (text : Bytes) : Except StdException Int :=
  stoInteger (str "stol") (-2 ^ 63) (2 ^ 63 - 1) text

example : stoi (str " -42:7") = .ok (-42) := by decide
example : stoi (str "") = .error (.invalidArgument (str "stoi")) := by decide

/-- What `%lld` reads. A number outside of the type is replaced by the nearest one in it. -/
def scanLongLong (text : Bytes) : Option Int :=
  let (negative, rest) := takeSign (text.dropWhile isSpace)
  let digits := rest.takeWhile isDigit
  if digits = [] then
    none
  else
    let value : Int := if negative then -digitsValue digits else digitsValue digits
    some (max (-2 ^ 63) (min (2 ^ 63 - 1) value))

/-- `file >> value`: where no number can be read, zero is stored. -/
def extractLongLong (text : Bytes) : Int := (scanLongLong text).getD 0

/-- The line read so far, and what follows it: `while (std::getline(file, line))`. -/
def getlines (line : Bytes) : Bytes → List Bytes
  | [] => if line = [] then [] else [line]
  | b :: rest => if b = 10 then line :: getlines [] rest else getlines (line ++ [b]) rest

end NetmonPlugins

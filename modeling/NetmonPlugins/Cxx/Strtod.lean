import NetmonPlugins.Cxx.Numeric

/-!
This module contains `std::stod` on top of `strtod` in the C locale. The value of a numeral is not
rounded, but a numeral is out of range where its rounding is.
-/

namespace NetmonPlugins

def isHexDigit (b : UInt8) : Bool := isDigit b || (65 ≤ b && b ≤ 70) || (97 ≤ b && b ≤ 102)

def hexDigitsValue (digits : Bytes) : Nat :=
  digits.foldl
    (fun acc b => acc * 16 + (if isDigit b then b.toNat - 48 else (toLower b).toNat - 87)) 0

namespace strtod

structure Notation where
  isDigit : UInt8 → Bool
  valueOf : Bytes → Nat
  -- What the exponent is an exponent of, and by how much a digit behind the point lowers it.
  base : Nat
  weight : Nat
  mark : UInt8

def decimal : Notation where
  isDigit := isDigit
  valueOf := digitsValue
  base := 10
  weight := 1
  mark := 101

def hexadecimal : Notation where
  isDigit := isHexDigit
  valueOf := hexDigitsValue
  base := 2
  weight := 4
  mark := 112

def takeFraction (p : UInt8 → Bool) : Bytes → Bytes × Bytes
  | 46 :: rest => (rest.takeWhile p, rest.dropWhile p)
  | text => ([], text)

/-- The mark without digits behind it is no part of the numeral. -/
def takeExponent (mark : UInt8) : Bytes → Int
  | [] => 0
  | b :: rest =>
    if toLower b = mark then
      let (negative, rest) := takeSign rest
      let exponent := digitsValue (rest.takeWhile isDigit)
      if negative then -exponent else exponent
    else
      0

def scale (base mantissa : Nat) (exponent : Int) : ℚ :=
  if 0 ≤ exponent then
    mantissa * base ^ exponent.toNat
  else
    mantissa / base ^ (-exponent).toNat

def Notation.read (n : Notation) (text : Bytes) : Option ℚ :=
  let whole := text.takeWhile n.isDigit
  let (fraction, rest) := takeFraction n.isDigit (text.dropWhile n.isDigit)
  let digits := whole ++ fraction
  if digits = [] then
    none
  else
    let exponent := takeExponent n.mark rest - n.weight * fraction.length
    some (scale n.base (n.valueOf digits) exponent)

/-- Where no digit follows `0x`, the numeral is the zero in front of the `x`. -/
def readNumeral (text : Bytes) : Option ℚ :=
  if (text.take 2).map toLower = str "0x" then
    (hexadecimal.read (text.drop 2)).or (decimal.read text)
  else
    decimal.read text

def magnitude (text : Bytes) : Option Double :=
  if (text.take 3).map toLower = str "inf" then some (.inf false)
  else if (text.take 3).map toLower = str "nan" then some .nan
  else (readNumeral text).map .fin

/-- The rounded value is no finite number, or it has lost bits below the smallest normal number. -/
def isOutOfRange (q : ℚ) : Bool :=
  decide (2 ^ 1024 - 2 ^ 970 ≤ q)
    || (decide (0 < q) && decide (q < 1 / 2 ^ 1022 - 1 / 2 ^ 1076)
      && decide ((q * 2 ^ 1074).den ≠ 1))

end strtod

def stod (text : Bytes) : Except StdException Double :=
  let (negative, rest) := takeSign (text.dropWhile isSpace)
  match strtod.magnitude rest with
  | none => .error (.invalidArgument (str "stod"))
  | some (.fin q) =>
    if strtod.isOutOfRange q then
      .error (.outOfRange (str "stod"))
    else
      .ok (.fin (if negative then -q else q))
  | some (.inf _) => .ok (.inf negative)
  | some .nan => .ok .nan

example : stod (str " -2.5e-1%") = .ok (.fin (-1 / 4)) := by decide +kernel
example : stod (str ".e3") = .error (.invalidArgument (str "stod")) := by decide +kernel
example : stod (str "1e-400") = .error (.outOfRange (str "stod")) := by decide +kernel

end NetmonPlugins

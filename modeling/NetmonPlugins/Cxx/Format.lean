import Mathlib.Data.Int.Log
import NetmonPlugins.Cxx.Bytes
import NetmonPlugins.Cxx.Double

/-!
This module contains what `operator<<` and `std::to_string` print for numbers.
-/

namespace NetmonPlugins

def natDec (n : Nat) : Bytes := (Nat.toDigits 10 n).map fun c => UInt8.ofNat c.toNat

def intDec (i : Int) : Bytes :=
  if i < 0 then str "-" ++ natDec i.natAbs else natDec i.natAbs

def roundHalfEven (q : ℚ) : Int :=
  let below := ⌊q⌋
  let rest := q - below
  if rest < 1 / 2 then
    below
  else if rest = 1 / 2 then
    if below % 2 = 0 then below else below + 1
  else
    below + 1

def fixed (prec : Nat) : Double → Bytes
  -- The sign of a NaN is no part of the model.
  | .nan => str "nan"
  | .inf negative => if negative then str "-inf" else str "inf"
  | .fin q =>
    let scaled := (roundHalfEven (|q| * 10 ^ prec)).natAbs
    let sign := if q < 0 then str "-" else []
    let whole := natDec (scaled / 10 ^ prec)
    let digits := natDec (scaled % 10 ^ prec)
    let fraction := List.replicate (prec - digits.length) 48 ++ digits
    sign ++ whole ++ (if prec = 0 then [] else str "." ++ fraction)

example : fixed 2 (.fin (3 / 8)) = str "0.38" := by decide +kernel

def trimZeros (text : Bytes) : Bytes :=
  if 46 ∈ text then
    ((text.reverse.dropWhile (· = 48)).dropWhile (· = 46)).reverse
  else
    text

/-- The format of a stream as it is constructed: six significant digits. -/
def general : Double → Bytes
  | .nan => str "nan"
  | .inf negative => if negative then str "-inf" else str "inf"
  | .fin q =>
    if q = 0 then
      str "0"
    else
      let log := Int.log 10 |q|
      -- The rounding can carry into a further digit.
      let carries := roundHalfEven (|q| * 10 ^ (5 - log)) = 10 ^ 6
      let exponent := if carries then log + 1 else log
      if -4 ≤ exponent ∧ exponent < 6 then
        trimZeros (fixed (5 - exponent).toNat (.fin q))
      else
        let digits := natDec exponent.natAbs
        trimZeros (fixed 5 (.fin (q / 10 ^ exponent))) ++ str "e"
          ++ (if exponent < 0 then str "-" else str "+")
          ++ (List.replicate (2 - digits.length) 48 ++ digits)

example : general (.fin (-1234567)) = str "-1.23457e+06" := by decide +kernel

end NetmonPlugins

import NetmonPlugins.Cxx.Numeric
import NetmonPlugins.Cxx.Regex
import NetmonPlugins.Cxx.Strtod

/-!
This module contains the JSON lookups by regular expression.
-/

namespace NetmonPlugins

open Regex

/-- The key is pasted into the pattern, where a dot stands for any byte of a line. -/
def quotedKey (key : Bytes) : List Item :=
  literal (str "\"")
    ++ key.map (fun c => if c = 46 then .one (fun b => b ≠ 10 && b ≠ 13) else .one (· = c))
    ++ literal (str "\"")

def colon : List Item := [.many isSpace] ++ literal (str ":") ++ [.many isSpace]

def isTrimmed (b : UInt8) : Bool := b = 32 || b = 9 || b = 10 || b = 13

def trim (value : Bytes) : Bytes :=
  ((value.dropWhile isTrimmed).reverse.dropWhile isTrimmed).reverse

def extractJsonValue (json key : Bytes) : Bytes :=
  let quoted := quotedKey key ++ colon ++ literal (str "\"")
    ++ [.openGroup, .one (· ≠ 34), .many (· ≠ 34), .closeGroup] ++ literal (str "\"")
  match search quoted json with
  | some (_, m) => m.group
  | none =>
    let isValue : UInt8 → Bool := fun b => b ≠ 44 && b ≠ 125
    let unquoted := quotedKey key ++ colon
      ++ [.openGroup, .one isValue, .many isValue, .closeGroup]
    match search unquoted json with
    | some (_, m) => trim m.group
    | none => []

def closingBrace : Bytes → Nat → Nat → Option Nat
  | _, 0, endPos => some endPos
  | [], _ + 1, _ => none
  | c :: cs, braceCount + 1, endPos =>
    if c = 123 then closingBrace cs (braceCount + 2) (endPos + 1)
    else if c = 125 then closingBrace cs braceCount (endPos + 1)
    else closingBrace cs (braceCount + 1) (endPos + 1)

def extractJsonNestedValue (json path : Bytes) : Bytes :=
  match _hdot : find path (str ".") 0 with
  | none => extractJsonValue json path
  | some dotPos =>
    let firstKey := substr path 0 dotPos
    let remainingPath := path.drop (dotPos + 1)
    match search (quotedKey firstKey ++ colon ++ literal (str "\x7b")) json with
    | none => []
    | some (position, m) =>
      let startPos := position + m.length - 1
      match closingBrace (json.drop (startPos + 1)) 1 (startPos + 1) with
      | none => []
      | some endPos =>
        extractJsonNestedValue (substr json startPos (endPos - startPos)) remainingPath
termination_by path.length
decreasing_by
  have hfound := (find_eq_some_iff _ _ _ _).mp _hdot
  have hpre := hfound.2.2.1.length_le
  rw [List.length_drop, show (str ".").length = 1 from rfl] at hpre
  rw [List.length_drop]
  omega

def jsonHasKey (json key : Bytes) : Bool :=
  (search (quotedKey key ++ (.many isSpace :: literal (str ":"))) json).isSome

/-- What the last dot of the key is followed by. -/
def leafKey (key : Bytes) : Bytes := (key.reverse.takeWhile (· ≠ 46)).reverse

/-- `\.?[0-9]*` -/
def fractionText : Bytes → Bytes
  | 46 :: rest => 46 :: rest.takeWhile isDigit
  | _ => []

def unquotedNumber (json leaf : Bytes) : Bytes :=
  let pattern := quotedKey leaf ++ colon
    ++ [.openGroup, .one isDigit, .many isDigit, .closeGroup]
  match search pattern json with
  | some (position, m) => m.group ++ fractionText (json.drop (position + m.length))
  | none => []

def extractJsonNumber (json key : Bytes) : Double :=
  let found :=
    if contains key (str ".") then
      extractJsonNestedValue json key
    else
      extractJsonValue json key
  let value := if found = [] then unquotedNumber json (leafKey key) else found
  if value = [] then
    0
  else
    match stod value with
    | .ok number => number
    | .error _ => 0

def isSame (c : UInt8) : Item := .one (fun b => toLower b = toLower c)

/-- The pattern of `quotedKey` for a search that ignores the case. -/
def quotedKeyIgnoringCase (key : Bytes) : List Item :=
  literal (str "\"")
    ++ key.map (fun c => if c = 46 then .one (fun b => b ≠ 10 && b ≠ 13) else isSame c)
    ++ literal (str "\"")

def unquotedBoolean (json key : Bytes) : Bytes :=
  let pattern (word : Bytes) : List Item :=
    quotedKeyIgnoringCase key ++ colon ++ (.openGroup :: (word.map isSame ++ [.closeGroup]))
  match searchEither (pattern (str "true")) (pattern (str "false")) json with
  | some (_, m) => m.group
  | none => []

def extractJsonBoolean (json key : Bytes) : Bool :=
  let found := extractJsonValue json key
  let value := if found = [] then unquotedBoolean json key else found
  value.map toLower = str "true" || value.map toLower = str "1"

example : extractJsonValue (str "\x7b\"a\" : 12 , \"b\":\"x\"\x7d") (str "a") = str "12" := by
  decide

example : extractJsonNumber (str "\x7b\"n\": ,\"n\": 2.5\x7d") (str "n") = .fin (5 / 2) := by
  decide +kernel

end NetmonPlugins

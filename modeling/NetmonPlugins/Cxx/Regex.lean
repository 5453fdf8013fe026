import NetmonPlugins.Cxx.Bytes

/-!
This module contains `std::regex_search` for patterns that are a sequence of byte classes, greedy
repetitions of a class and one capture group. A repetition gives bytes back when what follows it
does not match.
-/

namespace NetmonPlugins
namespace Regex

inductive Item where
  | one (p : UInt8 → Bool)
  | many (p : UInt8 → Bool)
  | openGroup
  | closeGroup

def literal (text : Bytes) : List Item := text.map fun c => .one (· = c)

structure Match where
  length : Nat := 0
  group : Bytes := []
  inGroup : Bool := false
  deriving DecidableEq

def Match.push (m : Match) (c : UInt8) : Match :=
  { m with length := m.length + 1, group := if m.inGroup then m.group ++ [c] else m.group }

def manyThen (p : UInt8 → Bool) (next : Bytes → Match → Option Match)
    : Bytes → Match → Option Match
  | [], m => next [] m
  | c :: cs, m =>
    if p c then
      (manyThen p next cs (m.push c)).or (next (c :: cs) m)
    else
      next (c :: cs) m

def matchHere : List Item → Bytes → Match → Option Match
  | [], _, m => some m
  | .one _ :: _, [], _ => none
  | .one p :: items, c :: cs, m => if p c then matchHere items cs (m.push c) else none
  | .many p :: items, s, m => manyThen p (matchHere items) s m
  | .openGroup :: items, s, m => matchHere items s { m with inGroup := true }
  | .closeGroup :: items, s, m => matchHere items s { m with inGroup := false }

def searchFrom (items : List Item) : Bytes → Nat → Option (Nat × Match)
  | [], pos => (matchHere items [] {}).map (pos, ·)
  | c :: cs, pos =>
    match matchHere items (c :: cs) {} with
    | some m => some (pos, m)
    | none => searchFrom items cs (pos + 1)

def search (items : List Item) (s : Bytes) : Option (Nat × Match) := searchFrom items s 0

def leftmost : Option (Nat × Match) → Option (Nat × Match) → Option (Nat × Match)
  | some found, some found' => if found.1 ≤ found'.1 then some found else some found'
  | some found, none => some found
  | none, found' => found'

/-- The alternatives of a pattern, of which the first is preferred where both match. -/
def searchEither (items items' : List Item) (s : Bytes) : Option (Nat × Match) :=
  leftmost (search items s) (search items' s)

end Regex
end NetmonPlugins

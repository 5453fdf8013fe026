import NetmonPlugins.Cxx.Bytes

/-!
This module contains the words of a simple command of the POSIX shell: token recognition, quoting,
and which words are the same whatever the variables and files of the shell are.
-/

namespace NetmonPlugins
namespace Shell

structure Letter where
  byte : UInt8
  quoted : Bool
  deriving DecidableEq

/-- `none` marks a quote that was removed. -/
abbrev Word := List (Option Letter)

def letters (w : Word) : List Letter := w.filterMap id

inductive Mode where
  | plain
  | backslash
  | single
  | double
  | doubleBackslash
  | comment
  deriving DecidableEq

structure Lexer where
  words : List Word := []
  word : Option Word := none
  mode : Mode := .plain
  deriving DecidableEq

def isOperator (b : UInt8) : Bool := b ∈ 10 :: str "|&;<>()"

def isExpansion (b : UInt8) : Bool := b ∈ str "$`"

def Lexer.put (s : Lexer) (b : UInt8) (quoted : Bool) (mode : Mode) : Lexer :=
  { s with word := some (s.word.getD [] ++ [some ⟨b, quoted⟩]), mode := mode }

def Lexer.openQuote (s : Lexer) (mode : Mode) : Lexer :=
  { s with word := some (s.word.getD [] ++ [none]), mode := mode }

def lexStep (s : Lexer) (b : UInt8) : Option Lexer :=
  match s.mode with
  | .plain =>
    if b = 92 then
      some { s with mode := .backslash }
    else if b = 39 then
      some (s.openQuote .single)
    else if b = 34 then
      some (s.openQuote .double)
    else if isTabOrSpace b then
      some { words := s.words ++ s.word.toList }
    else if isOperator b || isExpansion b then
      none
    else if b = 35 ∧ s.word = none then
      some { s with mode := .comment }
    else
      some (s.put b false .plain)
  | .backslash => some (if b = 10 then { s with mode := .plain } else s.put b true .plain)
  | .single => some (if b = 39 then { s with mode := .plain } else s.put b true .single)
  | .double =>
    if b = 34 then
      some { s with mode := .plain }
    else if b = 92 then
      some { s with mode := .doubleBackslash }
    else if isExpansion b then
      none
    else
      some (s.put b true .double)
  | .doubleBackslash =>
    if b = 10 then
      some { s with mode := .double }
    else if isExpansion b || b = 34 || b = 92 then
      some (s.put b true .double)
    else
      some ((s.put 92 true .double).put b true .double)
  | .comment => if b = 10 then none else some s

def Lexer.all (s : Lexer) : List Word := s.words ++ s.word.toList

/-- An open quote is an error, and a backslash at the end is left open by the standard. -/
def lex (text : Bytes) : Option (List Word) :=
  match text.foldlM lexStep {} with
  | none => none
  | some s => if s.mode = .plain ∨ s.mode = .comment then some s.all else none

def bare (text : Bytes) : Word := text.map fun b => some ⟨b, false⟩

def hasTilde : Word → Bool
  | [] => false
  | l :: w =>
    l = some ⟨126, false⟩
      && (w.takeWhile (· ≠ some ⟨47, false⟩)).all fun l => l.any (! ·.quoted)

/-- What follows a `[` makes a bracket expression, which contains no slash. -/
def isBracket (w : List Letter) : Bool :=
  match if w.head? = some ⟨33, false⟩ then w.tail else w with
  | [] => false
  | l :: rest =>
    let members := rest.takeWhile (· ≠ ⟨93, false⟩)
    l.byte ≠ 47 && members.all (·.byte ≠ 47) && members.length < rest.length

def hasPattern : List Letter → Bool
  | [] => false
  | l :: w =>
    l = ⟨42, false⟩ || l = ⟨63, false⟩ || (l = ⟨91, false⟩ && isBracket w) || hasPattern w

def expands (w : Word) : Bool := hasTilde w || hasPattern (letters w)

/-- Words that some shells reserve besides are ordinary here. -/
def isReserved (w : Word) : Bool :=
  w ∈ [str "!", str "\x7b", str "\x7d", str "case", str "do", str "done", str "elif", str "else",
    str "esac", str "fi", str "for", str "if", str "in", str "then", str "until",
    str "while"].map bare

def isNameStart (b : UInt8) : Bool := b = 95 || (65 ≤ b && b ≤ 90) || (97 ≤ b && b ≤ 122)

def isName (name : Bytes) : Bool :=
  match name with
  | [] => false
  | b :: rest => isNameStart b && rest.all fun b => isNameStart b || (48 ≤ b && b ≤ 57)

def isAssignment (w : Word) : Bool :=
  let prior := w.takeWhile (· ≠ some ⟨61, false⟩)
  prior.all (fun l => l.any (! ·.quoted)) && isName ((letters prior).map (·.byte))
    && prior.length < w.length

/-- The fields of a text that is one simple command and has the same fields in every environment. -/
def simpleCommand (text : Bytes) : Option (List Bytes) :=
  match lex text with
  | none => none
  | some [] => none
  | some (w :: ws) =>
    if isReserved w || isAssignment w || (w :: ws).any expands then
      none
    else
      some ((w :: ws).map fun w => (letters w).map (·.byte))

example : simpleCommand (str "a 'b c'd \"\" e\\ f # g")
    = some [str "a", str "b cd", [], str "e f"] := by decide

example : simpleCommand (str "a=b c") = none := by decide
example : simpleCommand (str "''a=b [") = some [str "a=b", str "["] := by decide

end Shell
end NetmonPlugins

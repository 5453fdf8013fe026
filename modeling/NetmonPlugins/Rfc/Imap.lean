import NetmonPlugins.Cxx.Numeric

/-!
This module contains the grammar of the LOGIN command of IMAP: a tag and two strings, each of which
is written as an atom, between quotes or as a literal.
-/

namespace NetmonPlugins
namespace Imap

def isAtomSpecial (c : UInt8) : Bool :=
  c ≤ 32 || 127 ≤ c || c = 40 || c = 41 || c = 123 || c = 37 || c = 42 || c = 34 || c = 92 || c = 93

/-- The bracket is special in an atom and not in a string. -/
def isAstringChar (c : UInt8) : Bool := !isAtomSpecial c || c = 93

/-- What stands between the quotes, and what it says. -/
inductive QuotedText : (value inner : Bytes) → Prop where
  | nil : QuotedText [] []
  | char {value inner : Bytes} (c : UInt8)
    (hc : 0 < c ∧ c < 128 ∧ c ≠ 10 ∧ c ≠ 13 ∧ c ≠ 34 ∧ c ≠ 92)
    (h : QuotedText value inner) : QuotedText (c :: value) (c :: inner)
  | escaped {value inner : Bytes} (c : UInt8) (hc : c = 34 ∨ c = 92) (h : QuotedText value inner)
    : QuotedText (c :: value) (92 :: c :: inner)

inductive Astring : (value encoded : Bytes) → Prop where
  | atom (value : Bytes) (hne : value ≠ []) (h : ∀ c ∈ value, isAstringChar c = true)
    : Astring value value
  | quoted {value inner : Bytes} (h : QuotedText value inner)
    : Astring value (str "\"" ++ inner ++ str "\"")
  | literal (value number : Bytes) (hne : number ≠ []) (hnumber : ∀ c ∈ number, isDigit c = true)
    (hlength : digitsValue number = value.length) (hzero : (0 : UInt8) ∉ value)
    : Astring value (str "\x7b" ++ number ++ str "\x7d" ++ crlf ++ value)

def IsTag (tag : Bytes) : Prop := tag ≠ [] ∧ ∀ c ∈ tag, isAstringChar c = true ∧ c ≠ 43

/-- The command is a LOGIN of this user with this password. -/
def IsLogin (user password command : Bytes) : Prop :=
  ∃ tag encodedUser encodedPassword, IsTag tag ∧ Astring user encodedUser
    ∧ Astring password encodedPassword
    ∧ command = tag ++ str " LOGIN " ++ encodedUser ++ str " " ++ encodedPassword ++ crlf

theorem QuotedText.length_le {value inner : Bytes} (h : QuotedText value inner)
    : value.length ≤ inner.length := by
  induction h with
  | nil => exact Nat.le_refl _
  | char c hc h ih => simpa using ih
  | escaped c hc h ih =>
    simp only [List.length_cons]
    omega

/-- Only an atom is written as short as what it says. -/
theorem Astring.length_lt {value encoded : Bytes} (h : Astring value encoded)
    : encoded = value ∧ value ≠ [] ∧ (∀ c ∈ value, isAstringChar c = true)
        ∨ value.length < encoded.length := by
  cases h with
  | atom hne h => exact .inl ⟨rfl, hne, h⟩
  | quoted h =>
    right
    have hinner := h.length_le
    simp only [List.length_append]
    have hquote : (str "\"").length = 1 := rfl
    omega
  | literal number hne hnumber hlength hzero =>
    right
    simp only [List.length_append]
    have hbrace : (str "\x7b").length = 1 := rfl
    omega

theorem isAstringChar_ne_blank {c : UInt8} (h : isAstringChar c = true) : c ≠ 32 := by
  rintro rfl
  revert h
  decide

end Imap
end NetmonPlugins

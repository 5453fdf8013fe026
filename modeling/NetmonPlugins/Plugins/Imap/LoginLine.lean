import NetmonPlugins.Net.Replay
import NetmonPlugins.Plugins.Imap.Impl
import NetmonPlugins.Rfc.Imap

/-!
This module determines which credentials `check_imap` sends in a LOGIN command that says them: those
that are atoms.
-/

namespace NetmonPlugins
namespace ImapPlugin

open Dialogue Imap

def loginLine (user pass : Bytes) : Bytes :=
  str "A1 LOGIN " ++ user ++ str " " ++ pass ++ crlf

theorem head?_sent_checkImap {user pass greeting : Bytes} (huser : user ≠ []) (hpass : pass ≠ [])
    (hgreeting : contains greeting (str "* OK") = true) (fates : List Bool) (responses : List Bytes)
    : ((checkImap true user pass).sent (true :: fates) (greeting :: responses)).head?
        =
      some (loginLine user pass) := by
  have hne : greeting ≠ [] := by
    rintro rfl
    contradiction
  unfold checkImap readResponse
  simp [sent, hne, hgreeting, huser, hpass, sendCommand, loginLine]

/-- A tag has no blank, so the strings of the command begin where the credentials do. -/
theorem credentials_of_line {user pass tag encodedUser encodedPass : Bytes} (htag : IsTag tag)
    (h : loginLine user pass
      = tag ++ str " LOGIN " ++ encodedUser ++ str " " ++ encodedPass ++ crlf)
    : user ++ (str " " ++ pass) = encodedUser ++ (str " " ++ encodedPass) := by
  have hblank : ∀ rest : Bytes, ∀ c ∈ (str " LOGIN " ++ rest).head?, decide (c ≠ 32) = false := by
    intro rest c hc
    have hc : 32 = c := Option.some.inj hc
    rw [← hc]
    rfl
  have hours : ∀ c ∈ str "A1", decide (c ≠ 32) = true := by simp [str]
  have htheirs : ∀ c ∈ tag, decide (c ≠ 32) = true := by
    intro c hc
    exact decide_eq_true (isAstringChar_ne_blank (htag.2 c hc).1)
  have hline : str "A1" ++ (str " LOGIN " ++ (user ++ (str " " ++ pass) ++ crlf))
      = tag ++ (str " LOGIN " ++ (encodedUser ++ (str " " ++ encodedPass) ++ crlf)) := by
    have hfront : str "A1 LOGIN " = str "A1" ++ str " LOGIN " := by decide
    unfold loginLine at h
    rw [hfront] at h
    simpa only [List.append_assoc] using h
  have hdrop := congrArg (List.dropWhile fun c => decide (c ≠ 32)) hline
  rw [dropWhile_append_of_head hours (hblank _), dropWhile_append_of_head htheirs (hblank _)] at hdrop
  exact List.append_cancel_right (List.append_cancel_left hdrop)

theorem isLogin_loginLine_iff {user pass : Bytes} (huser : user ≠ []) (hpass : pass ≠ [])
    : IsLogin user pass (loginLine user pass)
        ↔
      (∀ c ∈ user, isAstringChar c = true) ∧ ∀ c ∈ pass, isAstringChar c = true := by
  constructor
  . rintro ⟨tag, encodedUser, encodedPass, htag, hencodedUser, hencodedPass, hline⟩
    have hlength := congrArg List.length (credentials_of_line htag hline)
    simp only [List.length_append] at hlength
    rcases hencodedUser.length_lt with ⟨hsame, -, hatomUser⟩ | hlonger
    . rcases hencodedPass.length_lt with ⟨-, -, hatomPass⟩ | hlonger
      . exact ⟨hatomUser, hatomPass⟩
      . rw [hsame] at hlength
        omega
    . rcases hencodedPass.length_lt with ⟨hsame, -, -⟩ | hlonger'
      . rw [hsame] at hlength
        omega
      . omega
  . rintro ⟨hatomUser, hatomPass⟩
    refine ⟨str "A1", user, pass, ⟨by decide, ?_⟩, .atom user huser hatomUser,
      .atom pass hpass hatomPass, ?_⟩
    . simp [str, isAstringChar, isAtomSpecial]
    . simp [loginLine, str]

theorem login_sent_iff (user pass greeting : Bytes) (fates : List Bool) (responses : List Bytes)
    (huser : user ≠ []) (hpass : pass ≠ []) (hgreeting : contains greeting (str "* OK") = true)
    : (∃ line, ((checkImap true user pass).sent (true :: fates) (greeting :: responses)).head?
            = some line ∧ IsLogin user pass line)
        ↔
      (∀ c ∈ user, isAstringChar c = true) ∧ ∀ c ∈ pass, isAstringChar c = true := by
  rw [← isLogin_loginLine_iff huser hpass, head?_sent_checkImap huser hpass hgreeting]
  simp

theorem login_sent_of_atoms
    : ∃ line, ((checkImap true (str "bob") (str "s3cret]")).sent [true] [str "* OK ready\r\n"]).head?
          = some line
        ∧ IsLogin (str "bob") (str "s3cret]") line :=
  (login_sent_iff (str "bob") (str "s3cret]") (str "* OK ready\r\n") [] [] (by decide) (by decide)
    (by decide)).mpr (by simp [str, isAstringChar, isAtomSpecial])

/-- A blank in the password makes it two arguments. -/
theorem not_login_of_blank
    : ((checkImap true (str "bob") (str "a b")).sent [true] [str "* OK ready\r\n"]).head?
          = some (str "A1 LOGIN bob a b\r\n")
        ∧ ¬ IsLogin (str "bob") (str "a b") (str "A1 LOGIN bob a b\r\n") := by
  constructor
  . decide +kernel
  . intro h
    have hline : str "A1 LOGIN bob a b\r\n" = loginLine (str "bob") (str "a b") := by decide
    rw [hline, isLogin_loginLine_iff (by decide) (by decide)] at h
    have hblank := h.2 32 (by decide)
    revert hblank
    decide

end ImapPlugin
end NetmonPlugins

import NetmonPlugins.Plugins.LineChecks.Verdict

/-!
This module contains the logins of `check_pop`, `check_imap` and `check_nntp`: what their verdict
says about the status of the replies.
-/

namespace NetmonPlugins

open Dialogue

inductive LoginCheck where
  | pop
  | imap
  | nntp

namespace LoginCheck

def login : LoginCheck → Bytes → Bytes → Dialogue Bool
  | .pop => PopPlugin.checkPop true
  | .imap => ImapPlugin.checkImap true
  | .nntp => NntpPlugin.checkNntp true

/-- The tests of the check itself, from the greeting to the reply to the last login command. -/
def tests : LoginCheck → List (Bytes → Bool)
  | .pop => [PopPlugin.isPositive, PopPlugin.isPositive, PopPlugin.isPositive]
  | .imap => [(contains · (str "* OK")), (contains · (str "A1 OK"))]
  | .nntp => [NntpPlugin.isGreeting, (startsWith · '3'), (startsWith · '2')]

def isPositiveGreeting : LoginCheck → Bytes → Bool
  | .pop, line => (str "+OK").isPrefixOf line
  | .imap, line => (str "* OK").isPrefixOf line
  | .nntp, line => (str "200").isPrefixOf line || (str "201").isPrefixOf line

def isPositiveLogin : LoginCheck → Bytes → Bool
  | .pop, line => (str "+OK").isPrefixOf line
  | .imap, line => (str "A1 OK").isPrefixOf line
  | .nntp, line => startsWith line '2' && (line.take 3).all isDigit && 3 ≤ line.length

def misplaces (status line : Bytes) : Bool := contains line status && !status.isPrefixOf line

/-- No positive greeting, but one that the test of the check may pass. -/
def misreadsGreeting : LoginCheck → Bytes → Bool
  | .pop, line => misplaces (str "+OK") line
  | .imap, line => misplaces (str "* OK") line
  | .nntp, line =>
    startsWith line '4'
      || startsWith line '2' && !(str "200").isPrefixOf line && !(str "201").isPrefixOf line

def misreadsLogin : LoginCheck → Bytes → Bool
  | .pop, line => misplaces (str "+OK") line
  | .imap, line => misplaces (str "A1 OK") line
  | .nntp, line => startsWith line '2' && !((line.take 3).all isDigit && 3 ≤ line.length)

def lineAt (lines : List Line) (k : Nat) : Bytes := (lines.map (·.bytes)).getD k []

def IsPositive (check : LoginCheck) (lines : List Line) : Prop :=
  check.isPositiveGreeting (lineAt lines 0)
    ∧ check.isPositiveLogin (lineAt lines (check.tests.length - 1))

def IsMisread (check : LoginCheck) (lines : List Line) : Prop :=
  check.misreadsGreeting (lineAt lines 0)
    ∨ check.misreadsLogin (lineAt lines (check.tests.length - 1))

def IsRefused (check : LoginCheck) (lines : List Line) : Prop :=
  ∃ k, ∃ hk : k < check.tests.length, check.tests[k] ((received lines).getD k []) = false

instance (check : LoginCheck) (lines : List Line) : Decidable (check.IsPositive lines) :=
  inferInstanceAs (Decidable (_ ∧ _))

instance (check : LoginCheck) (lines : List Line) : Decidable (check.IsMisread lines) :=
  inferInstanceAs (Decidable (_ ∨ _))

theorem play_login (check : LoginCheck) (user pass : Bytes) (huser : user ≠ []) (hpass : pass ≠ [])
    (responses : List Bytes)
    : (check.login user pass).play [] responses = accepts check.tests responses := by
  cases check with
  | pop =>
    rw [login, PopPlugin.play_checkPop, PopPlugin.tests, if_pos huser, if_pos hpass, tests]
  | imap =>
    rw [login, ImapPlugin.play_checkImap, ImapPlugin.tests, if_pos ⟨huser, hpass⟩, tests]
  | nntp =>
    rw [login, NntpPlugin.play_checkNntp, NntpPlugin.tests, if_pos ⟨huser, hpass⟩, tests]

theorem isRefused_iff (check : LoginCheck) (lines : List Line)
    : check.IsRefused lines ↔ accepts check.tests (received lines) ≠ true := by
  rw [ne_eq, accepts_eq_true_iff]
  unfold IsRefused
  simp only [not_forall, Bool.not_eq_true]

theorem received_getD (lines : List Line) (k : Nat)
    : (received lines).getD k [] = cstr (lineAt lines k) := by
  unfold received lineAt
  rw [List.getD_eq_getElem?_getD, List.getD_eq_getElem?_getD, List.getElem?_map,
    List.getElem?_map]
  cases lines[k]? <;> rfl

theorem misplaces_eq_not {status line : Bytes} (h : contains (cstr line) status = true)
    : misplaces status line = !status.isPrefixOf line := by
  have hline : contains line status = true := by
    rw [contains_iff_isInfix] at *
    exact h.trans (List.takeWhile_prefix _).isInfix
  rw [misplaces, hline, Bool.true_and]

theorem nntp_misreadsGreeting {line : Bytes} (h : NntpPlugin.isGreeting (cstr line) = true)
    : nntp.misreadsGreeting line = !nntp.isPositiveGreeting line := by
  rw [NntpPlugin.isGreeting, startsWith_cstr _ _ (by decide), startsWith_cstr _ _ (by decide),
    Bool.or_eq_true] at h
  unfold misreadsGreeting isPositiveGreeting
  cases line with
  | nil => simp [startsWith_nil] at h
  | cons b rest =>
    simp only [startsWith, List.head?_cons, decide_eq_true_eq, Option.some.injEq] at h
    rcases h with rfl | rfl
    . have h4 : startsWith ('2'.toUInt8 :: rest) '4' = false := rfl
      have h2 : startsWith ('2'.toUInt8 :: rest) '2' = true := rfl
      simp only [h4, h2, Bool.false_or, Bool.true_and, Bool.not_or]
    . rfl

theorem misreadsGreeting_eq_not (check : LoginCheck) (lines : List Line)
    (h : accepts check.tests (received lines) = true)
    : check.misreadsGreeting (lineAt lines 0) = !check.isPositiveGreeting (lineAt lines 0) := by
  rw [accepts_eq_true_iff] at h
  cases check with
  | pop =>
    have hpass := h 0 (by decide)
    rw [received_getD] at hpass
    exact misplaces_eq_not hpass
  | imap =>
    have hpass := h 0 (by decide)
    rw [received_getD] at hpass
    exact misplaces_eq_not hpass
  | nntp =>
    have hpass := h 0 (by decide)
    rw [received_getD] at hpass
    exact nntp_misreadsGreeting hpass

theorem misreadsLogin_eq_not (check : LoginCheck) (lines : List Line)
    (h : accepts check.tests (received lines) = true)
    : check.misreadsLogin (lineAt lines (check.tests.length - 1))
        =
      !check.isPositiveLogin (lineAt lines (check.tests.length - 1)) := by
  rw [accepts_eq_true_iff] at h
  cases check with
  | pop =>
    have hpass := h 2 (by decide)
    rw [received_getD] at hpass
    exact misplaces_eq_not hpass
  | imap =>
    have hpass := h 1 (by decide)
    rw [received_getD] at hpass
    exact misplaces_eq_not hpass
  | nntp =>
    have hpass := h 2 (by decide)
    rw [received_getD] at hpass
    change startsWith (cstr _) '2' = true at hpass
    rw [startsWith_cstr _ _ (by decide)] at hpass
    show (startsWith (lineAt lines 2) '2' && _) = !(startsWith (lineAt lines 2) '2' && _ && _)
    rw [hpass, Bool.true_and, Bool.true_and]

theorem isPositive_iff (check : LoginCheck) (lines : List Line)
    (h : accepts check.tests (received lines) = true)
    : check.IsPositive lines ↔ ¬ check.IsMisread lines := by
  unfold IsPositive IsMisread
  rw [misreadsGreeting_eq_not check lines h, misreadsLogin_eq_not check lines h]
  simp

theorem login_sound_iff (check : LoginCheck) (user pass : Bytes) (huser : user ≠ [])
    (hpass : pass ≠ []) (lines : List Line)
    : ((check.login user pass).play [] (received lines) = true → check.IsPositive lines)
        ↔
      check.IsRefused lines ∨ ¬ check.IsMisread lines := by
  rw [play_login check user pass huser hpass, isRefused_iff]
  cases haccepts : accepts check.tests (received lines) with
  | false => simp
  | true => simp [isPositive_iff check lines haccepts]

def greetingLine : Line where
  text := str "+OK POP3 ready"
  newline_notMem := by decide
  length_le := by decide

def userLine : Line where
  text := str "+OK send PASS"
  newline_notMem := by decide
  length_le := by decide

def passLine : Line where
  text := str "-ERR user '+OK' has no mailbox"
  newline_notMem := by decide
  length_le := by decide

def busyLine : Line where
  text := str "400 too many readers"
  newline_notMem := by decide
  length_le := by decide

def continueLine : Line where
  text := str "381 password"
  newline_notMem := by decide
  length_le := by decide

def welcomeLine : Line where
  text := str "281 welcome"
  newline_notMem := by decide
  length_le := by decide

theorem login_sound_of_positive
    : (LoginCheck.pop.login (str "ann") (str "secret")).play []
          (received [greetingLine, userLine, greetingLine]) = true
        ∧ LoginCheck.pop.IsPositive [greetingLine, userLine, greetingLine] := by
  have hsound := (login_sound_iff .pop (str "ann") (str "secret") (by decide) (by decide)
    [greetingLine, userLine, greetingLine]).mpr (.inr (by decide))
  have hverdict : (LoginCheck.pop.login (str "ann") (str "secret")).play []
      (received [greetingLine, userLine, greetingLine]) = true := by decide +kernel
  exact ⟨hverdict, hsound hverdict⟩

/-- An error that names a user `+OK`, and a news server that is too busy to serve. -/
theorem login_of_errorText
    : (LoginCheck.pop.login (str "+OK") (str "guess")).play []
          (received [greetingLine, userLine, passLine]) = true
        ∧ ¬ LoginCheck.pop.IsPositive [greetingLine, userLine, passLine]
        ∧ (LoginCheck.nntp.login (str "ann") (str "secret")).play []
            (received [busyLine, continueLine, welcomeLine]) = true
        ∧ ¬ LoginCheck.nntp.IsPositive [busyLine, continueLine, welcomeLine] := by
  decide +kernel

end LoginCheck
end NetmonPlugins

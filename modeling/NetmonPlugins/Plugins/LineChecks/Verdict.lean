import NetmonPlugins.Net.Replay
import NetmonPlugins.Plugins.Imap.Impl
import NetmonPlugins.Plugins.Ircd.Impl
import NetmonPlugins.Plugins.Nntp.Impl
import NetmonPlugins.Plugins.Pop.Impl

/-!
This module contains the verdict of the line protocol checks as a function of the responses: each of
them is a list of tests, one for each response that is judged.
-/

namespace NetmonPlugins

open Dialogue

/-- Where a response is missing, the test is made of the empty text. -/
def accepts : List (Bytes → Bool) → List Bytes → Bool
  | [], _ => true
  | test :: tests, responses => test (responses.headD []) && accepts tests responses.tail

theorem accepts_eq_true_iff (tests : List (Bytes → Bool)) (responses : List Bytes)
    : accepts tests responses = true
        ↔
      ∀ k, (hk : k < tests.length) → tests[k] (responses.getD k []) = true := by
  induction tests generalizing responses with
  | nil => simp [accepts]
  | cons test tests ih =>
    rw [accepts, Bool.and_eq_true, ih]
    constructor
    . rintro ⟨hfirst, hrest⟩ k hk
      cases k with
      | zero => cases responses <;> exact hfirst
      | succ k =>
        have := hrest k (by simpa using hk)
        cases responses <;> exact this
    . intro h
      constructor
      . have := h 0 (Nat.succ_pos _)
        cases responses <;> exact this
      . intro k hk
        have := h (k + 1) (by simpa using hk)
        cases responses <;> exact this

theorem play_readResponse (next : Bytes → Dialogue β) (responses : List Bytes)
    : (readResponse >>= next).play [] responses
        =
      (next (responses.headD [])).play [] responses.tail := by
  unfold readResponse
  rw [read_bind, play_read, done_bind]

theorem play_sendCommand (command : Bytes) (next : Bool → Dialogue β) (responses : List Bytes)
    : (sendCommand command >>= next).play [] responses = (next true).play [] responses := rfl

/-- `response.empty() || !test`, where the empty response fails the test anyway. -/
theorem play_judge (test : Bytes → Bool) (hempty : test [] = false) (next : Dialogue Bool)
    (responses : List Bytes)
    : (readResponse >>= fun response =>
        if response = [] || !test response then .done false else next).play [] responses
        =
      (test (responses.headD []) && next.play [] responses.tail) := by
  rw [play_readResponse]
  generalize responses.headD [] = response
  cases htest : test response with
  | true =>
    have hne : response ≠ [] := by
      intro hnil
      rw [hnil, hempty] at htest
      contradiction
    simp [hne]
  | false => simp

namespace PopPlugin

def tests (user pass : Bytes) : List (Bytes → Bool) :=
  isPositive :: if user ≠ [] then isPositive :: if pass ≠ [] then [isPositive] else [] else []

theorem play_checkPop (user pass : Bytes) (responses : List Bytes)
    : (checkPop true user pass).play [] responses = accepts (tests user pass) responses := by
  unfold checkPop tests
  simp only [Bool.not_true, Bool.false_eq_true, ↓reduceIte, pure_eq_done]
  rw [play_judge isPositive rfl, accepts]
  congr 1
  cases user with
  | nil => rfl
  | cons b user =>
    simp only [ne_eq, reduceCtorEq, not_false_eq_true, ↓reduceIte, play_sendCommand, Bool.not_true,
      Bool.false_eq_true]
    rw [play_judge isPositive rfl, accepts]
    congr 1
    cases pass with
    | nil => rfl
    | cons b pass =>
      simp only [reduceCtorEq, not_false_eq_true, ↓reduceIte, play_sendCommand, Bool.not_true,
        Bool.false_eq_true]
      rw [play_judge isPositive rfl, accepts, accepts]
      simp only [play_sendCommand, play_readResponse, play_done]

end PopPlugin

namespace ImapPlugin

def tests (user pass : Bytes) : List (Bytes → Bool) :=
  (contains · (str "* OK"))
    :: if user ≠ [] ∧ pass ≠ [] then [(contains · (str "A1 OK"))] else []

theorem play_checkImap (user pass : Bytes) (responses : List Bytes)
    : (checkImap true user pass).play [] responses = accepts (tests user pass) responses := by
  unfold checkImap tests
  simp only [Bool.not_true, Bool.false_eq_true, ↓reduceIte, pure_eq_done]
  rw [play_judge (contains · (str "* OK")) rfl, accepts]
  congr 1
  split
  . simp only [play_sendCommand, Bool.not_true, Bool.false_eq_true, ↓reduceIte]
    rw [play_judge (contains · (str "A1 OK")) rfl, accepts, accepts]
    simp only [play_sendCommand, play_readResponse, play_done]
  . rfl

end ImapPlugin

namespace NntpPlugin

def isGreeting (response : Bytes) : Bool := startsWith response '2' || startsWith response '4'

def tests (user pass : Bytes) : List (Bytes → Bool) :=
  isGreeting
    :: if user ≠ [] ∧ pass ≠ [] then [(startsWith · '3'), (startsWith · '2')] else []

theorem not_isGreeting (response : Bytes)
    : (!startsWith response '2' && !startsWith response '4') = !isGreeting response := by
  rw [isGreeting, Bool.not_or]

theorem play_checkNntp (user pass : Bytes) (responses : List Bytes)
    : (checkNntp true user pass).play [] responses = accepts (tests user pass) responses := by
  unfold checkNntp tests
  simp only [Bool.not_true, Bool.false_eq_true, ↓reduceIte, pure_eq_done, not_isGreeting]
  rw [play_judge isGreeting rfl, accepts]
  congr 1
  split
  . simp only [play_sendCommand, Bool.not_true, Bool.false_eq_true, ↓reduceIte]
    rw [play_judge (startsWith · '3') rfl, accepts]
    congr 1
    simp only [play_sendCommand, Bool.not_true, Bool.false_eq_true, ↓reduceIte]
    rw [play_judge (startsWith · '2') rfl, accepts, accepts]
    simp only [play_sendCommand, play_readResponse, play_done]
  . simp only [play_sendCommand, play_readResponse, play_done, accepts]

end NntpPlugin

namespace IrcdPlugin

def tests : List (Bytes → Bool) := [(· ≠ []), isWelcome]

theorem play_checkIrcd (nick : Bytes) (responses : List Bytes)
    : (checkIrcd true nick).play [] responses = accepts tests responses := by
  unfold checkIrcd tests
  simp only [Bool.not_true, Bool.false_eq_true, ↓reduceIte, pure_eq_done]
  rw [play_readResponse, accepts]
  generalize responses.headD [] = response
  cases response with
  | nil => rfl
  | cons b response =>
    simp only [reduceCtorEq, ↓reduceIte, play_sendCommand, Bool.not_true, Bool.false_eq_true,
      play_readResponse, play_done, accepts, ne_eq, not_false_eq_true, decide_true, Bool.true_and,
      Bool.and_true]

end IrcdPlugin
end NetmonPlugins

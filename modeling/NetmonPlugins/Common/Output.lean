import NetmonPlugins.Common.Plugin
import NetmonPlugins.Cxx.Digits

/-!
This module contains what a monitoring core reads from the output of a plugin: one line, whose part
behind the first `|` is the performance data.
-/

namespace NetmonPlugins

def bar : UInt8 := 124

def newline : UInt8 := 10

/-- The status and the message are read back on the left, the performance data on the right. -/
def Recovers (result : PluginResult) : Prop :=
  ∃ line, printResult result = line ++ [newline] ∧ newline ∉ line ∧
    match find line [bar] 0 with
    | some i =>
      result.perfdata ≠ []
        ∧ line.take i = exitCodeToString result.code ++ str ": " ++ result.message ++ str " "
        ∧ line.drop (i + 1) = str " " ++ result.perfdata
    | none =>
      result.perfdata = [] ∧ line = exitCodeToString result.code ++ str ": " ++ result.message

def IsPlain (text : Bytes) : Prop := bar ∉ text ∧ newline ∉ text

instance (text : Bytes) : Decidable (IsPlain text) := inferInstanceAs (Decidable (_ ∧ _))

@[simp]
theorem isPlain_append (text text' : Bytes)
    : IsPlain (text ++ text') ↔ IsPlain text ∧ IsPlain text' := by
  unfold IsPlain
  rw [List.mem_append, List.mem_append, not_or, not_or]
  constructor
  . rintro ⟨⟨h1, h2⟩, h3, h4⟩
    exact ⟨⟨h1, h3⟩, h2, h4⟩
  . rintro ⟨⟨h1, h3⟩, h2, h4⟩
    exact ⟨⟨h1, h2⟩, h3, h4⟩

theorem isPlain_of_isDigit (text : Bytes) (h : ∀ b ∈ text, isDigit b = true) : IsPlain text := by
  constructor
  . intro hmem
    have := h bar hmem
    contradiction
  . intro hmem
    have := h newline hmem
    contradiction

@[simp]
theorem isPlain_natDec (n : Nat) : IsPlain (natDec n) := by
  apply isPlain_of_isDigit
  intro b hb
  exact isDigit_of_mem_natDec hb

@[simp]
theorem isPlain_intDec (i : Int) : IsPlain (intDec i) := by
  unfold intDec
  split
  . rw [isPlain_append]
    exact ⟨by decide, isPlain_natDec _⟩
  . apply isPlain_natDec

theorem isPlain_replicate (n : Nat) (b : UInt8) (h : IsPlain [b])
    : IsPlain (List.replicate n b) := by
  constructor
  . intro hmem
    apply h.1
    rw [List.eq_of_mem_replicate hmem]
    apply List.mem_singleton_self
  . intro hmem
    apply h.2
    rw [List.eq_of_mem_replicate hmem]
    apply List.mem_singleton_self

@[simp]
theorem isPlain_fixed (prec : Nat) (d : Double) : IsPlain (fixed prec d) := by
  cases d with
  | nan =>
    show IsPlain (str "nan")
    decide
  | inf negative =>
    show IsPlain (if negative then str "-inf" else str "inf")
    split <;> decide
  | fin q =>
    unfold fixed
    simp only [isPlain_append]
    refine ⟨⟨?_, ?_⟩, ?_⟩
    . split <;> decide
    . apply isPlain_natDec
    . split
      . decide
      . rw [isPlain_append, isPlain_append]
        exact ⟨by decide, isPlain_replicate _ _ (by decide), isPlain_natDec _⟩

@[simp]
theorem isPlain_exitCodeToString (code : ExitCode) : IsPlain (exitCodeToString code) := by
  cases code <;> decide

theorem find_bar_of_notMem (left rest : Bytes) (h : bar ∉ left)
    : find (left ++ bar :: rest) [bar] 0 = some left.length := by
  rw [find_zero, findFrom_append_of_notMem bar [] left _ 0 h, Nat.zero_add, findFrom_of_prefix]
  simp

theorem find_bar_eq_none_iff (line : Bytes) : find line [bar] 0 = none ↔ bar ∉ line := by
  have hcontains := contains_iff_isInfix line [bar]
  rw [List.singleton_infix_iff] at hcontains
  rw [← hcontains, contains]
  cases find line [bar] 0 <;> simp

def Clean (result : PluginResult) : Prop :=
  IsPlain result.message ∧ newline ∉ result.perfdata

instance (result : PluginResult) : Decidable (Clean result) := inferInstanceAs (Decidable (_ ∧ _))

def outputLine (result : PluginResult) : Bytes :=
  exitCodeToString result.code ++ str ": " ++ result.message
    ++ (if result.perfdata ≠ [] then str " | " ++ result.perfdata else [])

theorem printResult_eq (result : PluginResult)
    : printResult result = outputLine result ++ [newline] := rfl

theorem outputLine_of_nil (result : PluginResult) (h : result.perfdata = [])
    : outputLine result = exitCodeToString result.code ++ str ": " ++ result.message := by
  simp [outputLine, h]

theorem outputLine_of_ne_nil (result : PluginResult) (h : result.perfdata ≠ [])
    : outputLine result
        =
      (exitCodeToString result.code ++ str ": " ++ result.message ++ str " ")
        ++ bar :: (str " " ++ result.perfdata) := by
  have hdelimiter : str " | " = str " " ++ bar :: str " " := by decide
  simp [outputLine, h, hdelimiter]

theorem newline_notMem_outputLine (result : PluginResult)
    : newline ∉ outputLine result ↔ newline ∉ result.message ∧ newline ∉ result.perfdata := by
  have hhead : newline ∉ exitCodeToString result.code ++ str ": " := by
    cases result.code <;> decide
  have hdelimiter : newline ∉ str " | " := by decide
  unfold outputLine
  split
  . simp only [List.mem_append] at *
    tauto
  . next hperf =>
    rw [not_not] at hperf
    rw [hperf, List.append_nil, List.mem_append, not_or]
    simp [hhead]

theorem bar_notMem_take (line : Bytes) (i : Nat) (h : find line [bar] 0 = some i)
    : bar ∉ line.take i := by
  obtain ⟨_, _, _, hfirst⟩ := (find_eq_some_iff _ _ _ _).mp h
  intro hmem
  obtain ⟨j, hj, hbar⟩ := List.mem_take_iff_getElem.mp hmem
  apply hfirst j (Nat.zero_le j) (by omega)
  rw [List.drop_eq_getElem_cons (by omega), hbar, List.cons_prefix_cons]
  simp

theorem recovers_iff (result : PluginResult) : Recovers result ↔ Clean result := by
  have hcode := isPlain_exitCodeToString result.code
  constructor
  . rintro ⟨line, hline, hnewline, hsplit⟩
    have : line = outputLine result := by
      rw [printResult_eq] at hline
      exact (List.append_cancel_right hline).symm
    subst this
    have hmessage := (newline_notMem_outputLine result).mp hnewline
    refine ⟨⟨?_, hmessage.1⟩, hmessage.2⟩
    intro hbar
    split at hsplit
    . next i hfind =>
      apply bar_notMem_take _ _ hfind
      rw [hsplit.2.1]
      simp [hbar]
    . next hfind =>
      apply (find_bar_eq_none_iff _).mp hfind
      rw [hsplit.2]
      simp [hbar]
  . rintro ⟨hmessage, hperf⟩
    have hhead : IsPlain (exitCodeToString result.code ++ str ": " ++ result.message) := by
      rw [isPlain_append, isPlain_append]
      exact ⟨⟨hcode, by decide⟩, hmessage⟩
    refine ⟨outputLine result, printResult_eq result, ?_, ?_⟩
    . rw [newline_notMem_outputLine]
      exact ⟨hmessage.2, hperf⟩
    . by_cases hempty : result.perfdata = []
      . have hline := outputLine_of_nil _ hempty
        have hfind : find (outputLine result) [bar] 0 = none := by
          rw [hline, find_bar_eq_none_iff]
          exact hhead.1
        rw [hfind]
        exact ⟨hempty, hline⟩
      . have hleft := (isPlain_append _ (str " ")).mpr ⟨hhead, by decide⟩
        rw [outputLine_of_ne_nil _ hempty, find_bar_of_notMem _ _ hleft.1]
        refine ⟨hempty, ?_, ?_⟩
        . apply List.take_left
        . rw [List.drop_length_add_append, List.drop_succ_cons, List.drop_zero]

end NetmonPlugins

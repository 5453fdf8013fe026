import NetmonPlugins.Common.Severity
import NetmonPlugins.Plugins.Log.Impl

/-!
This module determines how the verdicts of `check_log` follow each other while a log grows. Every
run counts the whole file again, so what one run has found the next one finds as well.
-/

namespace NetmonPlugins

/-- A text that does not end in the middle of a line. -/
def IsWhole (text : Bytes) : Prop := ∀ init b, text = init ++ [b] → b = 10

theorem getlines_append_newline (line text more : Bytes)
    : getlines line (text ++ [10] ++ more)
        =
      getlines line (text ++ [10]) ++ getlines [] more := by
  induction text generalizing line with
  | nil => simp [getlines]
  | cons b text ih =>
    simp only [List.cons_append, getlines]
    split
    . simp only [List.cons_append, List.cons.injEq, true_and]
      apply ih
    . apply ih

theorem IsWhole.getlines_append {text : Bytes} (h : IsWhole text) (more : Bytes)
    : getlines [] (text ++ more) = getlines [] text ++ getlines [] more := by
  cases text using List.reverseRecOn with
  | nil => simp [getlines]
  | append_singleton init b =>
    rw [h init b rfl]
    apply getlines_append_newline

theorem isWhole_nil : IsWhole [] := by
  intro init b h
  simp at h

theorem isWhole_append_newline (line : Bytes) : IsWhole (line ++ [10]) := by
  intro init b h
  have hlast := (List.append_inj' h rfl).2
  simp only [List.cons.injEq, and_true] at hlast
  exact hlast.symm

theorem IsWhole.append {text more : Bytes} (h : IsWhole text) (hmore : IsWhole more)
    : IsWhole (text ++ more) := by
  cases more using List.reverseRecOn with
  | nil => simpa using h
  | append_singleton init b =>
    intro init' b' heq
    rw [← List.append_assoc] at heq
    have hlast := (List.append_inj' heq rfl).2
    simp only [List.cons.injEq, and_true] at hlast
    rw [← hlast]
    exact hmore init b rfl

theorem length_getlines_le (line text : Bytes)
    : (getlines line text).length ≤ line.length + text.length := by
  induction text generalizing line with
  | nil =>
    unfold getlines
    split
    . simp
    . next h =>
      have hpos : 0 < line.length := List.length_pos_iff.mpr h
      simp only [List.length_singleton, List.length_nil]
      omega
  | cons b text ih =>
    unfold getlines
    split
    . have htail := ih []
      simp only [List.length_cons, List.length_nil] at htail ⊢
      omega
    . have htail := ih (line ++ [b])
      simp only [List.length_append, List.length_cons, List.length_nil] at htail ⊢
      omega

namespace LogPlugin

variable {regex_search : Bytes → Except Bytes Bool} {invertMatch : Bool}

theorem countLines_append (matchCount : Int) (lines lines' : List Bytes)
    : countLines regex_search invertMatch matchCount (lines ++ lines')
        =
      (countLines regex_search invertMatch matchCount lines).bind
        fun matchCount => countLines regex_search invertMatch matchCount lines' := by
  induction lines generalizing matchCount with
  | nil => rfl
  | cons line lines ih =>
    simp only [List.cons_append, countLines]
    cases regex_search line with
    | error what => rfl
    | ok found => apply ih

/-- No line takes a match back, and the counter does not overflow. -/
theorem countLines_bounds {matchCount matchCount' : Int} {lines : List Bytes}
    (hnonneg : 0 ≤ matchCount) (hlt : matchCount + lines.length < 2 ^ 31)
    (h : countLines regex_search invertMatch matchCount lines = .ok matchCount')
    : matchCount ≤ matchCount' ∧ matchCount' ≤ matchCount + lines.length := by
  induction lines generalizing matchCount with
  | nil =>
    simp only [countLines, Except.ok.injEq] at h
    simp [h]
  | cons line lines ih =>
    simp only [List.length_cons, Int.natCast_add, Int.natCast_one] at hlt ⊢
    simp only [countLines] at h
    split at h
    . simp at h
    . next found hfound =>
      rw [intOfLong_of_lt (by omega) (by omega)] at h
      generalize (if invertMatch then !found else found) = counts at h
      cases counts with
      | false =>
        have hbounds := ih hnonneg (by omega) h
        omega
      | true =>
        have hbounds := ih (by omega) (by omega) h
        omega

theorem exitCode_mono (config : Config) {matchCount matchCount' : Int}
    (h : matchCount ≤ matchCount')
    : (exitCode config matchCount).toInt ≤ (exitCode config matchCount').toInt := by
  apply toInt_ladder_mono
  . rintro ⟨hset, hcount⟩
    exact ⟨hset, by omega⟩
  . rintro ⟨hset, hcount⟩
    exact ⟨hset, by omega⟩

theorem toInt_le_unknown (code : ExitCode) : code.toInt ≤ ExitCode.unknown.toInt := by
  cases code <;> simp [ExitCode.toInt]

/-- The system once `text` is the log. -/
def System.withLog (system : System) (logFile text : Bytes) : System :=
  { system with
    access := fun path => if path = logFile then true else system.access path
    ifstream := fun path => if path = logFile then some text else system.ifstream path
    st_size := fun path => if path = logFile then some text.length else system.st_size path }

/-- The runs of the check, one after each text that is appended to the log. -/
def watch (system : System) (config : Config) (text : Bytes) : List Bytes → List PluginResult
  | [] => []
  | more :: mores =>
    check (system.withLog config.logFile (text ++ more)) config
      :: watch system config (text ++ more) mores

section

variable {system : System} {config : Config} {text more : Bytes}

theorem code_check_withLog
    : (check (system.withLog config.logFile text) config).code
        =
      if config.logFile = [] then
        .unknown
      else
        match matchCount (system.withLog config.logFile text) config with
        | .error _ => .unknown
        | .ok matchCount => exitCode config matchCount := by
  unfold check
  split
  . rfl
  . have haccess : (system.withLog config.logFile text).access config.logFile = true := if_pos rfl
    simp only [haccess, Bool.not_true, Bool.false_eq_true, if_false]
    split <;> simp_all

theorem matchCount_withLog
    : matchCount (system.withLog config.logFile text) config
        =
      if config.pattern ≠ [] then
        match system.regex config.pattern (!config.caseSensitive) with
        | .error what => .error (.runtimeError (str "Invalid regex pattern: " ++ what))
        | .ok regex_search => countLines regex_search config.invertMatch 0 (getlines [] text)
      else
        .ok 0 := by
  unfold matchCount countMatches
  have hopen : (system.withLog config.logFile text).ifstream config.logFile = some text := if_pos rfl
  rw [hopen]
  rfl

theorem code_check_le_append (hwhole : IsWhole text) (hlen : (text ++ more).length < 2 ^ 31)
    : (check (system.withLog config.logFile text) config).code.toInt
        ≤
      (check (system.withLog config.logFile (text ++ more)) config).code.toInt := by
  rw [code_check_withLog, code_check_withLog, matchCount_withLog, matchCount_withLog]
  by_cases hfile : config.logFile = []
  . simp [hfile]
  by_cases hpattern : config.pattern = []
  . simp [hpattern]
  rw [if_neg hfile, if_neg hfile, if_pos hpattern, if_pos hpattern]
  cases system.regex config.pattern (!config.caseSensitive) with
  | error what => simp
  | ok regex_search =>
    dsimp only
    rw [hwhole.getlines_append, countLines_append]
    cases hbefore : countLines regex_search config.invertMatch 0 (getlines [] text) with
    | error e => simp [Except.bind]
    | ok before =>
      dsimp only [Except.bind]
      cases hafter : countLines regex_search config.invertMatch before (getlines [] more) with
      | error e => apply toInt_le_unknown
      | ok after =>
        apply exitCode_mono
        have hlines := length_getlines_le [] text
        have hlines' := length_getlines_le [] more
        simp only [List.length_append, List.length_nil] at hlen hlines hlines'
        have hcount := countLines_bounds (by omega) (by omega) hbefore
        exact (countLines_bounds (by omega) (by omega) hafter).1

/-- No later run falls below the verdict on the text that a watch starts from. -/
theorem code_check_le_of_mem_watch {mores : List Bytes} {result : PluginResult}
    (hwhole : IsWhole text) (hlen : (text ++ mores.flatten).length < 2 ^ 31)
    (hmores : ∀ more ∈ mores, IsWhole more) (h : result ∈ watch system config text mores)
    : (check (system.withLog config.logFile text) config).code.toInt ≤ result.code.toInt := by
  induction mores generalizing text with
  | nil => simp [watch] at h
  | cons more mores ih =>
    simp only [List.flatten_cons, ← List.append_assoc] at hlen
    have hstep : (check (system.withLog config.logFile text) config).code.toInt
        ≤ (check (system.withLog config.logFile (text ++ more)) config).code.toInt := by
      apply code_check_le_append hwhole
      rw [List.length_append] at hlen
      omega
    simp only [watch, List.mem_cons] at h
    rcases h with rfl | htail
    . exact hstep
    . apply Int.le_trans hstep
      apply ih (hwhole.append (hmores more (by simp))) hlen _ htail
      exact fun more' hmem => hmores more' (List.mem_cons_of_mem more hmem)

/-- While a log grows by whole lines, the verdicts on it never improve, whichever pattern is looked
for, whether matching lines are counted or all others, and also where a line makes the regular
expression throw. -/
theorem codes_watch_sorted {mores : List Bytes} (hwhole : IsWhole text)
    (hmores : ∀ more ∈ mores, IsWhole more) (hlen : (text ++ mores.flatten).length < 2 ^ 31)
    : ((watch system config text mores).map (·.code.toInt)).Pairwise (· ≤ ·) := by
  induction mores generalizing text with
  | nil => simp [watch]
  | cons more mores ih =>
    simp only [List.flatten_cons, ← List.append_assoc] at hlen
    have hwhole' := hwhole.append (hmores more (by simp))
    have htail : ∀ more' ∈ mores, IsWhole more' :=
      fun more' hmem => hmores more' (List.mem_cons_of_mem more hmem)
    simp only [watch, List.map_cons, List.pairwise_cons, List.forall_mem_map]
    refine ⟨?_, ih hwhole' htail hlen⟩
    intro result hmem
    exact code_check_le_of_mem_watch hwhole' hlen htail hmem

end

/-- A system where a pattern is found as it is written. -/
def System.grep : System where
  access := fun _ => false
  ifstream := fun _ => none
  st_size := fun _ => none
  regex := fun pattern _ => .ok fun line => .ok (find line pattern 0).isSome

theorem codes_watch_sorted_grep
    : ((watch System.grep { logFile := str "log", pattern := str "ERROR", criticalCount := 1 } []
          [str "start" ++ [10], str "ERROR" ++ [10], str "stop" ++ [10]]).map
        (·.code.toInt)).Pairwise (· ≤ ·) := by
  apply codes_watch_sorted isWhole_nil
  . intro more hmem
    simp only [List.mem_cons, List.not_mem_nil, or_false] at hmem
    rcases hmem with rfl | rfl | rfl <;> apply isWhole_append_newline
  . decide

end LogPlugin
end NetmonPlugins

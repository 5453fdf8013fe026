import NetmonPlugins.Net.Framing
import NetmonPlugins.Net.Replay
import NetmonPlugins.Plugins.Memcached.Impl

/-!
This module contains the replies to `stats` and how `check_memcached` takes them from a stream.
-/

namespace NetmonPlugins
namespace MemcachedPlugin

open Dialogue

def IsText (text : Bytes) : Prop := ∀ c ∈ text, c ≠ 0 ∧ c ≠ 10 ∧ c ≠ 13

structure Stat where
  name : Bytes
  value : Bytes
  isText_name : IsText name
  isText_value : IsText value
  not_end : ¬ str "END" <:+ value

def Stat.line (stat : Stat) : Bytes := str "STAT " ++ (stat.name ++ (str " " ++ stat.value))

def endLine : Bytes := str "END\r\n"

def linesOf (stats : List Stat) : Bytes := stats.flatMap fun stat => stat.line ++ crlf

def statsReply (stats : List Stat) : Bytes := linesOf stats ++ endLine

theorem isText_append {text text' : Bytes}
    : IsText (text ++ text') ↔ IsText text ∧ IsText text' := by
  unfold IsText
  exact List.forall_mem_append

theorem Stat.isText_line (stat : Stat) : IsText stat.line := by
  unfold Stat.line
  rw [isText_append, isText_append, isText_append]
  refine ⟨?_, stat.isText_name, ?_, stat.isText_value⟩
  . simp [IsText, str]
  . simp [IsText, str]

/-- Behind the last blank of the line there is only the value. -/
theorem Stat.not_end_line (stat : Stat) : ¬ str "END" <:+ stat.line := by
  have hblank : ∀ before : Bytes, ¬ str "END" <:+ before ++ (str " " ++ stat.value) := by
    intro before h
    have hvalue : str " " ++ stat.value <:+ before ++ (str " " ++ stat.value) :=
      List.suffix_append _ _
    rcases List.suffix_or_suffix_of_suffix h hvalue with hshort | hlong
    . have hsuffix : str "END" <:+ 32 :: stat.value := hshort
      rw [List.suffix_cons_iff] at hsuffix
      rcases hsuffix with heq | hsuffix
      . simp [str] at heq
      . exact stat.not_end hsuffix
    . have hmem : (32 : UInt8) ∈ str "END" := hlong.subset (by simp [str])
      revert hmem
      decide
  intro h
  unfold Stat.line at h
  rw [← List.append_assoc] at h
  exact hblank _ h

/-- A line break behind `END` ends the line that it is in, or is in one of the lines behind it. -/
theorem split_at_end {line rest before after : Bytes} (hline : IsText line)
    (h : line ++ crlf ++ rest = before ++ endLine ++ after)
    : str "END" <:+ line ∨ ∃ before', before = line ++ crlf ++ before' := by
  rw [List.append_assoc, List.append_assoc] at h
  rcases List.append_eq_append_iff.mp h with ⟨inner, hbefore, hinner⟩ | ⟨inner, hinline, hinner⟩
  . right
    rcases inner with _ | ⟨c, _ | ⟨c', inner⟩⟩
    . simp [endLine, str, crlf] at hinner
    . simp [endLine, str, crlf] at hinner
    . simp only [crlf, List.cons_append, List.nil_append, List.cons.injEq] at hinner
      obtain ⟨rfl, rfl, -⟩ := hinner
      refine ⟨inner, ?_⟩
      rw [hbefore, List.append_assoc]
      rfl
  . left
    have hcr : ∀ c ∈ inner, (c != 13) = true := by
      intro c hc
      rw [bne_iff_ne]
      exact (hline c (by rw [hinline]; exact List.mem_append_right _ hc)).2.2
    have hend : ∀ c ∈ str "END", (c != 13) = true := by simp [str]
    have hstop : ∀ text : Bytes, ∀ c ∈ (crlf ++ text).head?, (c != 13) = false := by simp [crlf]
    have hmarker : endLine ++ after = str "END" ++ (crlf ++ after) := by
      simp [endLine, str, crlf]
    have htake := congrArg (List.takeWhile (· != 13)) hinner
    rw [hmarker, takeWhile_append_of_head hend (hstop after),
      takeWhile_append_of_head hcr (hstop rest)] at htake
    rw [hinline, htake]
    exact List.suffix_append before inner

/-- The marker is in the reply once, at its end. -/
theorem after_eq_nil {stats : List Stat} {before after : Bytes}
    (h : statsReply stats = before ++ endLine ++ after)
    : after = [] := by
  induction stats generalizing before with
  | nil =>
    have hlength := congrArg List.length h
    simp only [statsReply, linesOf, List.flatMap_nil, List.nil_append, List.length_append] at hlength
    apply List.eq_nil_of_length_eq_zero
    omega
  | cons stat stats ih =>
    have hcons : statsReply (stat :: stats) = stat.line ++ crlf ++ statsReply stats := by
      simp [statsReply, linesOf]
    rw [hcons] at h
    rcases split_at_end stat.isText_line h with hsuffix | ⟨before', rfl⟩
    . exact absurd hsuffix stat.not_end_line
    . have hrest : stat.line ++ crlf ++ statsReply stats
          = stat.line ++ crlf ++ (before' ++ endLine ++ after) := by
        rw [h]
        simp only [List.append_assoc]
      exact ih (List.append_cancel_left hrest)

theorem isComplete_take (stats : List Stat) (n : Nat) (hn : n < (statsReply stats).length)
    : isComplete ((statsReply stats).take n) = false := by
  rw [← Bool.not_eq_true]
  unfold isComplete
  rw [contains_iff_isInfix]
  rintro ⟨before, after, hinfix⟩
  have hwhole := List.take_append_drop n (statsReply stats)
  rw [← hinfix, List.append_assoc] at hwhole
  have hnil := after_eq_nil hwhole.symm
  have hlength := congrArg List.length hnil
  rw [List.length_append, List.length_drop, List.length_nil] at hlength
  omega

theorem isComplete_statsReply (stats : List Stat) : isComplete (statsReply stats) = true := by
  unfold isComplete
  rw [contains_iff_isInfix]
  exact (List.suffix_append _ _).isInfix

theorem zero_notMem_statsReply (stats : List Stat) : (0 : UInt8) ∉ statsReply stats := by
  unfold statsReply linesOf
  rw [List.mem_append, List.mem_flatMap, not_or]
  constructor
  . rintro ⟨stat, -, hmem⟩
    rcases List.mem_append.mp hmem with hline | hcrlf
    . exact (stat.isText_line 0 hline).1 rfl
    . revert hcrlf
      decide
  . decide

def server (stats : List Stat) : Peer := answering [statsReply stats]

theorem exec_sendCommand (command : Bytes) (stats : List Stat) (next : Bytes → Dialogue β)
    (sizes : List Nat) (hsizes : ∀ n ∈ sizes, 1 ≤ n ∧ n ≤ 8191)
    (hsum : sizes.sum = (statsReply stats).length)
    : ∃ s, exec (step (server stats)) (start (server stats) (sendCommand command >>= next))
          (.send true :: sizes.map .deliver) = some s
        ∧ s.client = next (statsReply stats) := by
  have hreply : server stats [command ++ crlf] = statsReply stats := by
    simp [server, answering, transcript]
  have hnone : server stats [] = [] := by
    simp [server, answering, transcript]
  have hsend : step (server stats) (start (server stats) (sendCommand command >>= next)) (.send true)
      = some
        { client := .read 8191 isComplete [] fun r => next r
          heard := [command ++ crlf]
          wire := statsReply stats
          fates := [true]
          responses := [] } := by
    simp [step, start, sendCommand, hreply, hnone]
  rw [exec, hsend]
  dsimp only
  rw [exec_delivers sizes rfl]
  . exact ⟨_, rfl, rfl⟩
  . exact zero_notMem_statsReply stats
  . simp [statsReply, endLine, str]
  . exact hsizes
  . exact hsum
  . exact isComplete_take stats
  . exact isComplete_statsReply stats

theorem statsReply_of_split (command : Bytes) (stats : List Stat) (sizes : List Nat)
    (hsizes : ∀ n ∈ sizes, 1 ≤ n ∧ n ≤ 8191) (hsum : sizes.sum = (statsReply stats).length)
    : outcome (server stats) (sendCommand command) (.send true :: sizes.map .deliver)
          = some (statsReply stats)
        ∧ ∀ config : Config, config.hostname ≠ [] →
          outcome (server stats) (check true config) (.send true :: sizes.map .deliver)
            = some (checkStats (statsReply stats)) := by
  simp only [outcome_eq_some_iff]
  constructor
  . exact exec_sendCommand command stats .done sizes hsizes hsum
  . intro config hconfig
    have hcheck : check true config
        = sendCommand (str "stats") >>= fun response => .done (checkStats response) := by
      unfold check
      rw [if_neg hconfig]
      rfl
    rw [hcheck]
    exact exec_sendCommand (str "stats") stats (fun response => .done (checkStats response)) sizes
      hsizes hsum

def uptime : Stat where
  name := str "uptime"
  value := str "7"
  isText_name := by simp [IsText, str]
  isText_value := by simp [IsText, str]
  not_end := by decide

/-- The second cut is inside the marker. -/
theorem statsReply_of_inner_split
    : outcome (server [uptime]) (sendCommand (str "stats"))
          [.send true, .deliver 6, .deliver 11, .deliver 3]
        = some (statsReply [uptime]) :=
  (statsReply_of_split (str "stats") [uptime] [6, 11, 3] (by simp) (by decide)).1

end MemcachedPlugin
end NetmonPlugins

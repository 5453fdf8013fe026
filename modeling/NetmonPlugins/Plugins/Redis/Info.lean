import NetmonPlugins.Common.Occurrences
import NetmonPlugins.Plugins.Redis.Impl

/-!
This module contains the text of INFO as the list of its lines, and the line in which the lookup of
a key ends: the first one that mentions the key with a colon behind it.
-/

namespace NetmonPlugins
namespace RedisPlugin

inductive InfoLine where
  | comment (text : Bytes) (isLine : IsLine text)
  | entry (key value : Bytes) (isLine_key : IsLine key) (colon_notMem : (58 : UInt8) ∉ key)
    (isLine_value : IsLine value)

namespace InfoLine

def text : InfoLine → Bytes
  | comment text _ => str "#" ++ text
  | entry key value _ _ _ => key ++ str ":" ++ value

def key? : InfoLine → Option Bytes
  | comment _ _ => none
  | entry key _ _ _ _ => some key

def value : InfoLine → Bytes
  | comment _ _ => []
  | entry _ value _ _ _ => value

theorem isLine_text (line : InfoLine) : IsLine line.text := by
  cases line with
  | comment text isLine =>
    rw [InfoLine.text, isLine_append]
    exact ⟨by simp [IsLine, str], isLine⟩
  | entry key value isLine_key _ isLine_value =>
    rw [InfoLine.text, isLine_append, isLine_append]
    exact ⟨⟨isLine_key, by simp [IsLine, str]⟩, isLine_value⟩

end InfoLine

structure Info where
  lines : List InfoLine
  nodup : (lines.filterMap InfoLine.key?).Nodup

def infoText (lines : List InfoLine) : Bytes := lines.flatMap fun line => line.text ++ crlf

/-- The value of the line with this key, and the empty string when there is no such line. -/
def Info.lookup (info : Info) (key : Bytes) : Bytes :=
  ((info.lines.find? fun line => line.key? = some key).map InfoLine.value).getD []

/-- The first line that mentions the key with a colon behind it, and what follows there. -/
structure FirstMention (lines : List InfoLine) (key : Bytes) (line : InfoLine) (behind : Bytes)
    : Prop where
  exists_split : ∃ before after, lines = before ++ line :: after
    ∧ ∀ line' ∈ before, ¬ key ++ str ":" <:+: line'.text
  exists_text : ∃ front, line.text = front ++ (key ++ str ":" ++ behind)
    ∧ find line.text (key ++ str ":") 0 = some front.length

section

variable {lines : List InfoLine} {key : Bytes} {line : InfoLine} {behind : Bytes}

theorem infoText_cons (line : InfoLine) (lines : List InfoLine)
    : infoText (line :: lines) = line.text ++ (crlf ++ infoText lines) := by
  simp [infoText]

theorem isLine_mention (hkey : IsLine key) : IsLine (key ++ str ":") := by
  rw [isLine_append]
  exact ⟨hkey, by simp [IsLine, str]⟩

theorem mention_ne_nil : key ++ str ":" ≠ [] := by
  simp [str]

theorem mention_of_key (h : line.key? = some key) : line.text = key ++ str ":" ++ line.value := by
  cases line with
  | comment text isLine => contradiction
  | entry key' value _ _ _ =>
    injection h with h
    rw [← h]
    rfl

theorem find_infoText {before after : List InfoLine} {pos : Nat} (hkey : IsLine key)
    (hbefore : ∀ line' ∈ before, ¬ key ++ str ":" <:+: line'.text)
    (hpos : find line.text (key ++ str ":") 0 = some pos)
    : find (infoText (before ++ line :: after)) (key ++ str ":") 0
        =
      some ((infoText before).length + pos) := by
  induction before with
  | nil =>
    rw [List.nil_append, infoText_cons, find_append_of_some hpos]
    simp [infoText]
  | cons line' before ih =>
    rw [List.forall_mem_cons] at hbefore
    rw [List.cons_append, infoText_cons,
      find_line_cons (isLine_mention hkey) mention_ne_nil hbefore.1, ih hbefore.2, infoText_cons]
    simp only [Option.map_some, List.length_append]
    congr 1
    omega

theorem find_infoText_eq_none (hkey : IsLine key)
    (h : ∀ line ∈ lines, ¬ key ++ str ":" <:+: line.text)
    : find (infoText lines) (key ++ str ":") 0 = none := by
  induction lines with
  | nil => simp [infoText, find, findFrom, str]
  | cons line lines ih =>
    rw [List.forall_mem_cons] at h
    rw [infoText_cons, find_line_cons (isLine_mention hkey) mention_ne_nil h.1, ih h.2]
    rfl

theorem exists_firstMention (h : ∃ line ∈ lines, key ++ str ":" <:+: line.text)
    : ∃ line behind, FirstMention lines key line behind := by
  induction lines with
  | nil => simp at h
  | cons line lines ih =>
    by_cases hline : key ++ str ":" <:+: line.text
    . rw [← contains_iff_isInfix] at hline
      obtain ⟨pos, hpos⟩ := Option.isSome_iff_exists.mp hline
      obtain ⟨-, hlength, ⟨behind, hbehind⟩, -⟩ := (find_eq_some_iff _ _ _ _).mp hpos
      refine ⟨line, behind, ⟨[], lines, rfl, by simp⟩, line.text.take pos, ?_, ?_⟩
      . rw [hbehind, List.take_append_drop]
      . rw [hpos, List.length_take, Nat.min_eq_left hlength]
    . have hlater : ∃ line ∈ lines, key ++ str ":" <:+: line.text := by
        obtain ⟨line', hmem, hmention⟩ := h
        rcases List.mem_cons.mp hmem with rfl | hmem
        . contradiction
        . exact ⟨line', hmem, hmention⟩
      obtain ⟨line', behind, ⟨before, after, hlines, hbefore⟩, htext⟩ := ih hlater
      refine ⟨line', behind, ⟨line :: before, after, by rw [hlines]; rfl, ?_⟩, htext⟩
      rw [List.forall_mem_cons]
      exact ⟨hline, hbefore⟩

theorem extractInfoValue_of_firstMention (hkey : IsLine key)
    (h : FirstMention lines key line behind)
    : extractInfoValue (infoText lines) key = behind := by
  obtain ⟨⟨before, after, hlines, hbefore⟩, front, htext, hfront⟩ := h
  have hpos : find (infoText (before ++ line :: after)) (key ++ str ":") 0
      = some ((infoText before).length + front.length) :=
    find_infoText hkey hbefore hfront
  have hsplit : infoText lines
      = infoText before ++ (front ++ (key ++ str ":")) ++ (behind ++ (crlf ++ infoText after)) := by
    have hcons := infoText_cons line after
    rw [htext] at hcons
    rw [hlines]
    unfold infoText at hcons ⊢
    rw [List.flatMap_append, hcons]
    simp only [List.append_assoc]
  have hlength : (infoText before).length + front.length + key.length + 1
      = (infoText before ++ (front ++ (key ++ str ":"))).length := by
    simp [str]
    omega
  have hbehind : IsLine behind := by
    have hline := line.isLine_text
    rw [htext, isLine_append, isLine_append] at hline
    exact hline.2.2
  have hdrop : (infoText lines).drop ((infoText before).length + front.length + key.length + 1)
      = behind ++ (crlf ++ infoText after) := by
    rw [hlength, hsplit, List.drop_left]
  have hend : find (infoText lines) crlf ((infoText before).length + front.length + key.length + 1)
      = some ((infoText before).length + front.length + key.length + 1 + behind.length) := by
    rw [find_from, hdrop,
      find_crlf_eq_some_iff.mpr ⟨behind, infoText after, rfl, rfl, hbehind.not_crlf_infix⟩]
    . rfl
    . rw [hlength, hsplit]
      exact (List.prefix_append _ _).length_le
  rw [← hlines] at hpos
  unfold extractInfoValue
  rw [hpos]
  simp only
  rw [hend]
  simp only
  unfold substr
  rw [hdrop, Nat.add_sub_cancel_left, List.take_left]

theorem extractInfoValue_of_no_mention (hkey : IsLine key)
    (h : ∀ line ∈ lines, ¬ key ++ str ":" <:+: line.text)
    : extractInfoValue (infoText lines) key = [] := by
  unfold extractInfoValue
  rw [find_infoText_eq_none hkey h]

theorem FirstMention.behind_of_key (h : FirstMention lines key line behind)
    (hline : line.key? = some key)
    : behind = line.value := by
  obtain ⟨-, front, htext, hfront⟩ := h
  have hmention := mention_of_key hline
  have hzero : find line.text (key ++ str ":") 0 = some 0 := by
    rw [find_zero, hmention]
    apply findFrom_of_prefix
    apply List.prefix_append
  rw [hzero, Option.some.injEq] at hfront
  rw [List.eq_nil_of_length_eq_zero hfront.symm, List.nil_append, hmention] at htext
  exact (List.append_cancel_left htext).symm

theorem FirstMention.find?_of_key (h : FirstMention lines key line behind)
    (hline : line.key? = some key)
    : (lines.find? fun line => line.key? = some key) = some line := by
  obtain ⟨⟨before, after, rfl, hbefore⟩, -⟩ := h
  rw [List.find?_append, List.find?_eq_none.mpr, Option.none_or, List.find?_cons_of_pos]
  . simpa using hline
  . intro line' hmem
    rw [decide_eq_true_eq]
    intro hkey
    apply hbefore line' hmem
    rw [mention_of_key hkey]
    exact (List.prefix_append _ _).isInfix

theorem find?_eq_none_of_no_mention (h : ∀ line ∈ lines, ¬ key ++ str ":" <:+: line.text)
    : (lines.find? fun line => line.key? = some key) = none := by
  rw [List.find?_eq_none]
  intro line hmem
  rw [decide_eq_true_eq]
  intro hkey
  apply h line hmem
  rw [mention_of_key hkey]
  exact (List.prefix_append _ _).isInfix

end

theorem extractInfoValue_eq_lookup_iff (info : Info) (key : Bytes) (hkey : IsLine key)
    : extractInfoValue (infoText info.lines) key = info.lookup key
        ↔
      ∀ line behind, FirstMention info.lines key line behind
        → line.key? = some key ∨ behind = info.lookup key := by
  constructor
  . intro h line behind hmention
    right
    rw [← h, extractInfoValue_of_firstMention hkey hmention]
  . intro h
    by_cases hmention : ∃ line ∈ info.lines, key ++ str ":" <:+: line.text
    . obtain ⟨line, behind, hfirst⟩ := exists_firstMention hmention
      rw [extractInfoValue_of_firstMention hkey hfirst]
      rcases h line behind hfirst with hline | hsame
      . unfold Info.lookup
        rw [hfirst.behind_of_key hline, hfirst.find?_of_key hline]
        rfl
      . exact hsame
    . have hnone : ∀ line ∈ info.lines, ¬ key ++ str ":" <:+: line.text := by
        simpa using hmention
      unfold Info.lookup
      rw [extractInfoValue_of_no_mention hkey hnone, find?_eq_none_of_no_mention hnone]
      rfl

def usedMemory : InfoLine :=
  .entry (str "used_memory") (str "5") (by simp [IsLine, str]) (by simp [str])
    (by simp [IsLine, str])

def memoryInfo : Info where
  lines := [.comment (str " Memory") (by simp [IsLine, str]), usedMemory]
  nodup := by decide

theorem lookup_of_memoryInfo
    : extractInfoValue (infoText memoryInfo.lines) (str "used_memory")
        = memoryInfo.lookup (str "used_memory") := by
  apply (extractInfoValue_eq_lookup_iff memoryInfo (str "used_memory") (by simp [IsLine, str])).mpr
  intro line behind hmention
  obtain ⟨⟨before, after, hlines, -⟩, front, -, hfront⟩ := hmention
  have hmem : line ∈ memoryInfo.lines := by
    rw [hlines]
    simp
  rcases List.mem_cons.mp hmem with rfl | hmem
  . have hnone : find (InfoLine.comment (str " Memory") (by simp [IsLine, str])).text
        (str "used_memory" ++ str ":") 0 = none := by
      decide
    rw [hnone] at hfront
    contradiction
  . rw [List.mem_singleton.mp hmem]
    exact .inl rfl

def peakInfo : Info where
  lines := [
    .entry (str "peak_used_memory") (str "9") (by simp [IsLine, str]) (by simp [str])
      (by simp [IsLine, str]),
    usedMemory]
  nodup := by decide

/-- The key of another line ends in the key that is looked up. -/
theorem lookup_of_peakInfo
    : extractInfoValue (infoText peakInfo.lines) (str "used_memory") = str "9"
        ∧ peakInfo.lookup (str "used_memory") = str "5" := by
  decide +kernel

end RedisPlugin
end NetmonPlugins

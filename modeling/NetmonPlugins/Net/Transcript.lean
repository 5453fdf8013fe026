import Mathlib.Algebra.Order.Ring.Nat
import NetmonPlugins.Net.Replay

/-!
This module contains what a run has in common with every other run against the same peer: the
receives cut the stream of all that the peer says into pieces.
-/

namespace NetmonPlugins

def said (peer : Peer) (heard : List Bytes) : Bytes := heard.inits.flatMap peer

/-- It says the next reply when it is connected to and after each message it `prompts`. -/
def transcript (prompts : Bytes → Bool) (replies : List Bytes) : Peer := fun heard =>
  match heard.getLast? with
  | none => replies.getD 0 []
  | some message => if prompts message then replies.getD (heard.countP prompts) [] else []

def cut : List Nat → Bytes → List Bytes
  | [], _ => []
  | n :: sizes, stream => stream.take n :: cut sizes (stream.drop n)

namespace Dialogue

def Action.size : Action → Option Nat
  | .send _ => none
  | .deliver n => some n
  | .timeout => some 0

def sizes (actions : List Action) : List Nat := actions.filterMap Action.size

/-- Each read is a single receive. -/
def Once : Dialogue β → Prop
  | .done _ => True
  | .send _ next => ∀ ok, (next ok).Once
  | .read _ enough response next => (∀ r, enough r = true) ∧ response = [] ∧ ∀ r, (next r).Once

end Dialogue

namespace Dialogue

@[simp]
theorem once_done (result : β) : (Dialogue.done result).Once := trivial

@[simp]
theorem once_ite (c : Prop) [Decidable c] (yes no : Dialogue β)
    : (if c then yes else no).Once ↔ (c → yes.Once) ∧ (¬ c → no.Once) := by
  split
  . next hc => simp [hc]
  . next hc => simp [hc]

theorem Once.bind {client : Dialogue α} {f : α → Dialogue β} (hclient : client.Once)
    (hf : ∀ a, (f a).Once)
    : (client >>= f).Once := by
  induction client with
  | done result => exact hf result
  | send message next ih =>
    rw [send_bind]
    intro ok
    apply ih ok (hclient ok)
  | read size enough response next ih =>
    rw [read_bind]
    refine ⟨hclient.1, hclient.2.1, ?_⟩
    intro r
    apply ih r (hclient.2.2 r)

end Dialogue

@[simp]
theorem said_nil (peer : Peer) : said peer [] = peer [] := by
  simp [said]

theorem said_concat (peer : Peer) (heard : List Bytes) (message : Bytes)
    : said peer (heard ++ [message]) = said peer heard ++ peer (heard ++ [message]) := by
  simp [said, List.inits_append]

theorem said_transcript (prompts : Bytes → Bool) (replies : List Bytes) (heard : List Bytes)
    : said (transcript prompts replies) heard
        =
      (replies.take (heard.countP prompts + 1)).flatten := by
  induction heard using List.reverseRecOn with
  | nil => cases replies <;> simp [transcript]
  | append_singleton heard message ih =>
    rw [said_concat, ih, List.countP_append, List.countP_singleton]
    simp only [transcript, List.getLast?_concat, List.countP_append, List.countP_singleton]
    split
    . have htake : replies.take (heard.countP prompts + 1 + 1)
          = replies.take (heard.countP prompts + 1) ++ replies[heard.countP prompts + 1]?.toList := by
        apply List.take_add_one
      rw [htake, List.flatten_append, List.getD_eq_getElem?_getD]
      cases replies[heard.countP prompts + 1]? <;> simp
    . simp

theorem transcript_eq_getD (replies : List Bytes) (heard : List Bytes)
    : transcript (fun _ => true) replies heard = replies.getD heard.length [] := by
  unfold transcript
  cases heard using List.reverseRecOn with
  | nil => rfl
  | append_singleton heard message => simp

theorem cut_append (sizes sizes' : List Nat) (stream : Bytes)
    : cut (sizes ++ sizes') stream = cut sizes stream ++ cut sizes' (stream.drop sizes.sum) := by
  induction sizes generalizing stream with
  | nil => rfl
  | cons n sizes ih =>
    rw [List.cons_append, cut, cut, ih, List.cons_append, List.sum_cons, List.drop_drop]

theorem cut_of_isPrefix (sizes : List Nat) (stream stream' : Bytes) (h : stream <+: stream')
    (hsum : sizes.sum ≤ stream.length)
    : cut sizes stream' = cut sizes stream := by
  obtain ⟨rest, rfl⟩ := h
  induction sizes generalizing stream with
  | nil => rfl
  | cons n sizes ih =>
    rw [List.sum_cons] at hsum
    rw [cut, cut, List.take_append_of_le_length (by omega),
      List.drop_append_of_le_length (by omega), ih]
    rw [List.length_drop]
    omega

theorem cut_lengths (replies : List Bytes)
    : cut (replies.map List.length) replies.flatten = replies := by
  induction replies with
  | nil => rfl
  | cons reply replies ih =>
    rw [List.map_cons, List.flatten_cons, cut, List.take_left, List.drop_left, ih]

theorem cut_of_isPrefix_lengths {sizes : List Nat} {replies : List Bytes}
    (h : sizes <+: replies.map List.length)
    : cut sizes replies.flatten = replies.take sizes.length := by
  have hsizes : sizes = (replies.take sizes.length).map List.length := by
    rw [List.map_take]
    exact List.prefix_iff_eq_take.mp h
  have hprefix : (replies.take sizes.length).flatten <+: replies.flatten := by
    refine ⟨(replies.drop sizes.length).flatten, ?_⟩
    rw [← List.flatten_append, List.take_append_drop]
  have hsum : sizes.sum ≤ (replies.take sizes.length).flatten.length := by
    rw [List.length_flatten, ← hsizes]
  rw [cut_of_isPrefix _ _ _ hprefix hsum]
  generalize replies.take sizes.length = taken at hsizes
  rw [hsizes, cut_lengths]

namespace Dialogue

structure Pieces (peer : Peer) (actions : List Action) (s : State β) : Prop where
  once : s.client.Once
  taken_le : (sizes actions).sum ≤ (said peer s.heard).length
  wire : s.wire = (said peer s.heard).drop (sizes actions).sum
  responses : s.responses = (cut (sizes actions) (said peer s.heard)).map cstr

theorem sizes_concat (actions : List Action) (a : Action)
    : sizes (actions ++ [a]) = sizes actions ++ a.size.toList := by
  unfold sizes
  rw [List.filterMap_append]
  cases a <;> rfl

theorem Pieces.step {peer : Peer} {actions : List Action} {s s' : State β} {a : Action}
    (inv : Pieces peer actions s) (h : step peer s a = some s')
    : Pieces peer (actions ++ [a]) s' := by
  have honce := inv.once
  cases a with
  | send ok =>
    cases ok with
    | true =>
      obtain ⟨message, next, hclient, rfl⟩ := step_accepted h
      rw [hclient] at honce
      constructor
      . exact honce true
      . rw [sizes_concat]
        simp only [Action.size, Option.toList_none, List.append_nil, said_concat, List.length_append]
        have := inv.taken_le
        omega
      . rw [sizes_concat]
        simp only [Action.size, Option.toList_none, List.append_nil, said_concat]
        rw [List.drop_append_of_le_length inv.taken_le, ← inv.wire]
      . rw [sizes_concat]
        simp only [Action.size, Option.toList_none, List.append_nil, said_concat]
        rw [inv.responses]
        congr 1
        symm
        apply cut_of_isPrefix
        . apply List.prefix_append
        . exact inv.taken_le
    | false =>
      obtain ⟨message, next, hclient, rfl⟩ := step_refused h
      rw [hclient] at honce
      constructor
      . exact honce false
      all_goals
        rw [sizes_concat]
        simp only [Action.size, Option.toList_none, List.append_nil]
      . exact inv.taken_le
      . exact inv.wire
      . exact inv.responses
  | deliver n =>
    obtain ⟨size, enough, response, next, hclient, hpos, hsize, hwire, rfl⟩ := step_deliver h
    rw [hclient] at honce
    obtain ⟨henough, rfl, honce⟩ := honce
    unfold State.deliver
    dsimp only
    rw [if_pos (henough _)]
    rw [inv.wire, List.length_drop] at hwire
    constructor
    . exact honce _
    . rw [sizes_concat, List.sum_append]
      have := inv.taken_le
      simp only [State.finish, Action.size, Option.toList_some, List.sum_singleton]
      omega
    . rw [sizes_concat, List.sum_append]
      simp only [State.finish, Action.size, Option.toList_some, List.sum_singleton]
      rw [inv.wire, List.drop_drop]
    . rw [sizes_concat, cut_append, List.map_append]
      simp only [State.finish, Action.size, Option.toList_some, cut, List.map_cons, List.map_nil]
      rw [inv.responses, inv.wire, List.nil_append]
  | timeout =>
    obtain ⟨size, enough, response, next, hclient, rfl⟩ := step_timeout h
    rw [hclient] at honce
    obtain ⟨_, rfl, honce⟩ := honce
    constructor
    . exact honce _
    . rw [sizes_concat, List.sum_append]
      simpa [State.finish, Action.size] using inv.taken_le
    . rw [sizes_concat, List.sum_append]
      simpa [State.finish, Action.size] using inv.wire
    . rw [sizes_concat, cut_append, List.map_append]
      simp only [State.finish, Action.size, Option.toList_some, cut, List.map_cons, List.map_nil]
      rw [inv.responses]
      rfl

theorem pieces_of_exec {peer : Peer} {client : Dialogue β} {actions : List Action} {s : State β}
    (honce : client.Once) (h : exec (step peer) (start peer client) actions = some s)
    : Pieces peer actions s := by
  apply exec_invariant _ _ h
  . constructor
    . exact honce
    . exact Nat.zero_le _
    . exact (said_nil peer).symm
    . rfl
  . intro actions s a s' inv hstep
    exact inv.step hstep

theorem responses_of_exec {prompts : Bytes → Bool} {replies : List Bytes} {client : Dialogue β}
    {actions : List Action} {s : State β} (honce : client.Once)
    (h : exec (step (transcript prompts replies)) (start (transcript prompts replies) client) actions
      = some s)
    : s.responses = (cut (sizes actions) replies.flatten).map cstr := by
  have hpieces := pieces_of_exec honce h
  rw [hpieces.responses]
  congr 1
  symm
  apply cut_of_isPrefix
  . rw [said_transcript]
    apply List.IsPrefix.flatten
    apply List.take_prefix
  . exact hpieces.taken_le

end Dialogue
end NetmonPlugins

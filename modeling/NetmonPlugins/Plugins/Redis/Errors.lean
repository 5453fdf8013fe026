import NetmonPlugins.Net.Replay
import NetmonPlugins.Plugins.Redis.Impl

/-!
This module contains what `check_redis` makes of error replies.
-/

namespace NetmonPlugins
namespace RedisPlugin

open Dialogue

structure Answers where
  auth : Bytes
  ping : Bytes
  info : Bytes

/-- The responses to AUTH, which is left out without a password, to PING and to INFO. -/
def answers (config : Config) (responses : List Bytes) : Answers :=
  if config.password ≠ [] then
    { auth := responses.getD 0 [], ping := responses.getD 1 [], info := responses.getD 2 [] }
  else
    { auth := [], ping := responses.getD 0 [], info := responses.getD 1 [] }

def ErrorAnswered (peer : Peer) (s : State PluginResult) : Prop :=
  ∃ k, k < s.heard.length ∧ startsWith (peer (s.heard.take (k + 1))) '-' = true

def CarriesInfo (response : Bytes) : Prop := ∃ info, parseInfo response = .ok info ∧ info ≠ []

def Rejected (config : Config) (answers : Answers) : Prop :=
  config.password ≠ [] ∧ authenticated answers.auth = false
    ∨ ponged answers.ping = false
    ∨ ¬ CarriesInfo answers.info

theorem code_infoResult (response : Bytes)
    : (infoResult response).code ≠ .ok ↔ ¬ CarriesInfo response := by
  unfold infoResult CarriesInfo
  cases parseInfo response with
  | error e => simp
  | ok info =>
    cases info with
    | nil => simp [critical]
    | cons b info => simp [report]

theorem play_sendRedisCommand (command : Bytes) (next : Bytes → Dialogue β)
    (responses : List Bytes)
    : (sendRedisCommand command >>= next).play [] responses
        =
      (next (responses.headD [])).play [] responses.tail := by
  unfold sendRedisCommand
  rw [send_bind, play_send, if_neg (by decide), read_bind, play_read, done_bind]

theorem headD_eq_getD (responses : List Bytes) : responses.headD [] = responses.getD 0 [] := by
  cases responses <;> rfl

theorem getD_tail (responses : List Bytes) (k : Nat)
    : responses.tail.getD k [] = responses.getD (k + 1) [] := by
  cases responses <;> rfl

theorem code_play_pingAndInfo (responses : List Bytes)
    : (pingAndInfo.play [] responses).code ≠ .ok
        ↔
      ponged (responses.getD 0 []) = false ∨ ¬ CarriesInfo (responses.getD 1 []) := by
  unfold pingAndInfo
  rw [play_sendRedisCommand, headD_eq_getD, ← code_infoResult]
  cases hping : ponged (responses.getD 0 []) with
  | false => simp [critical]
  | true =>
    simp only [Bool.not_true, Bool.false_eq_true, ↓reduceIte, pure_eq_done]
    rw [play_sendRedisCommand, play_done, headD_eq_getD, getD_tail]
    simp

theorem code_play_check (config : Config) (hhost : config.hostname ≠ []) (responses : List Bytes)
    : ((check true config).play [] responses).code ≠ .ok
        ↔
      Rejected config (answers config responses) := by
  unfold check Rejected answers
  rw [if_neg hhost, if_neg (by decide)]
  split
  . next hpassword =>
    rw [play_sendRedisCommand, headD_eq_getD]
    cases hauth : authenticated (responses.getD 0 []) with
    | false => simp [critical, hpassword]
    | true =>
      simp only [Bool.not_true, Bool.false_eq_true, ↓reduceIte]
      rw [code_play_pingAndInfo, getD_tail, getD_tail]
      simp
  . next hpassword =>
    rw [code_play_pingAndInfo]
    simp [hpassword]

theorem fatal_check (config : Config) : (check true config).Fatal (·.code ≠ .ok) := by
  have hquestions : pingAndInfo.Fatal (·.code ≠ .ok) := by
    refine ⟨⟨critical (str "PING failed"), rfl, by decide⟩, ?_⟩
    intro pingResponse
    show Fatal _ (if !ponged pingResponse then _ else _)
    split
    . trivial
    . refine ⟨⟨critical (str "Invalid INFO response"), rfl, by decide⟩, ?_⟩
      intro infoResponse
      trivial
  unfold check
  split
  . trivial
  . rw [if_neg (by decide)]
    split
    . refine ⟨⟨critical (str "Authentication failed"), rfl, by decide⟩, ?_⟩
      intro authResponse
      show Fatal _ (if !authenticated authResponse then _ else _)
      split
      . trivial
      . exact hquestions
    . exact hquestions

theorem code_ne_ok_iff (config : Config) {peer : Peer} {s : State PluginResult}
    {result : PluginResult} {ok : State PluginResult → Action → Prop}
    (h : Reaches (step peer) ok (start peer (check true config)) s)
    (hdone : s.client = .done result)
    : result.code ≠ .ok
        ↔
      config.hostname = [] ∨ false ∈ s.fates ∨ Rejected config (answers config s.responses) := by
  have hplay := play_of_done h hdone
  cases Decidable.em (config.hostname = []) with
  | inl hhost =>
    rw [check, if_pos hhost] at hplay
    rw [← hplay]
    simp [hhost, hostnameMissing]
  | inr hhost =>
    cases Decidable.em (false ∈ s.fates) with
    | inl hrefused =>
      obtain ⟨_, hbad⟩ := bad_of_refused (fatal_check config) h
      obtain ⟨result', hdone', hcode⟩ := hbad hrefused
      rw [hdone, Dialogue.done.injEq] at hdone'
      simp [hdone', hcode, hrefused]
    | inr hsent =>
      have hfates : ∀ ok ∈ s.fates, ok = true := by
        intro ok hmem
        cases ok with
        | true => rfl
        | false => exact absurd hmem hsent
      rw [play_of_sent _ _ _ hfates] at hplay
      rw [← hplay, code_play_check config hhost]
      simp [hhost, hsent]

theorem code_of_error_iff (config : Config) (peer : Peer) (s : State PluginResult)
    (result : PluginResult)
    (h : Reaches (step peer) (fun _ _ => True) (start peer (check true config)) s)
    (hdone : s.client = .done result)
    : (ErrorAnswered peer s → result.code ≠ .ok)
        ↔
      (ErrorAnswered peer s
        → config.hostname = [] ∨ false ∈ s.fates ∨ Rejected config (answers config s.responses))
      := by
  rw [code_ne_ok_iff config h hdone]

def noPermission : Peer := fun heard =>
  match heard with
  | [_] => str "+PONG\r\n"
  | [_, _] => str "-NOPERM no permission to run INFO\r\n"
  | _ => []

def noAuth : Peer := fun heard =>
  match heard with
  | [_] => str "-NOAUTH Authentication required.\r\n"
  | _ => []

theorem code_of_noAuth
    : ∃ s result, exec (step noAuth) (start noAuth (check true { hostname := str "cache" }))
          [.send true, .deliver 34] = some s
        ∧ s.client = .done result
        ∧ (ErrorAnswered noAuth s → result.code ≠ .ok) := by
  have hrun : outcome noAuth (check true { hostname := str "cache" }) [.send true, .deliver 34]
      = some (critical (str "PING failed")) := by decide +kernel
  obtain ⟨s, hexec, hdone⟩ := (outcome_eq_some_iff _ _ _ _).mp hrun
  have hreach : Reaches (step noAuth) (fun _ _ => True)
      (start noAuth (check true { hostname := str "cache" })) s :=
    Reaches.of_exec _ (fun _ _ => trivial) .refl hexec
  refine ⟨s, _, hexec, hdone, ?_⟩
  apply (code_of_error_iff { hostname := str "cache" } noAuth s _ hreach hdone).mpr
  intro _
  have hresponses : (exec (step noAuth) (start noAuth (check true { hostname := str "cache" }))
      [.send true, .deliver 34]).map (·.responses)
        = some [str "-NOAUTH Authentication required.\r\n"] := by decide +kernel
  rw [hexec, Option.map_some, Option.some.injEq] at hresponses
  rw [hresponses]
  exact .inr (.inr (.inr (.inl (by decide +kernel))))

/-- The error text is taken for the text of INFO. -/
theorem ok_of_noPermission
    : (outcome noPermission (check true { hostname := str "cache" })
          [.send true, .deliver 7, .send true, .deliver 35]).map (·.code) = some .ok := by
  decide +kernel

end RedisPlugin
end NetmonPlugins

import NetmonPlugins.Common.Output
import NetmonPlugins.Net.Replay
import NetmonPlugins.Plugins.Activemq.Impl
import NetmonPlugins.Plugins.Swap.Impl
import NetmonPlugins.Plugins.Zookeeper.Impl

/-!
This module contains where the messages of `check_swap`, `check_zookeeper` and `check_activemq` have
a meaning in the output that is not theirs.
-/

namespace NetmonPlugins

open Dialogue

namespace SwapPlugin

def BelowThreshold (config : Config) (swap : SwapInfo) : Prop :=
  (config.criticalFree > 0 ∧ swap.free < config.criticalFree)
    ∨ (config.criticalPercent > 0 ∧ freePercent swap < config.criticalPercent)
    ∨ (config.warningFree > 0 ∧ swap.free < config.warningFree)
    ∨ (config.warningPercent > 0 ∧ freePercent swap < config.warningPercent)

theorem checkThresholds_ne_ok_iff (config : Config) (swap : SwapInfo)
    : checkThresholds config swap ≠ .ok ↔ BelowThreshold config swap := by
  unfold checkThresholds BelowThreshold
  rw [ite_ne_ok_iff (by decide), ite_ne_ok_iff (by decide), ite_ne_ok_iff (by decide),
    ite_ne_ok_iff (by decide)]
  simp only [ne_eq, not_true_eq_false, or_false]

theorem isPlain_formatSize (kb : Int) : IsPlain (formatSize kb) := by
  unfold formatSize
  split
  . rw [isPlain_append]
    exact ⟨isPlain_intDec _, by decide⟩
  . split
    . rw [isPlain_append]
      exact ⟨isPlain_intDec _, by decide⟩
    . rw [isPlain_append]
      exact ⟨isPlain_intDec _, by decide⟩

theorem isPlain_message_iff (code : ExitCode) (swap : SwapInfo)
    : IsPlain (message code swap) ↔ code ≠ .ok := by
  unfold message
  split
  . next hok =>
    simp only [hok, ne_eq, not_true_eq_false, iff_false]
    intro h
    apply h.1
    have : bar ∈ str "% free) | " := by decide
    simp [this]
  . next hok =>
    simp only [ne_eq, hok, not_false_eq_true, iff_true, isPlain_append, isPlain_formatSize,
      isPlain_fixed, isPlain_exitCodeToString, and_true]
    decide

theorem isPlain_perfdata (config : Config) (swap : SwapInfo) : IsPlain (perfdata config swap) := by
  have hbound (c : Prop) [Decidable c] (i : Int)
      : IsPlain (if c then str ";" ++ intDec i else []) := by
    split
    . rw [isPlain_append]
      exact ⟨by decide, isPlain_intDec _⟩
    . decide
  unfold perfdata
  simp only [isPlain_append, isPlain_intDec, isPlain_fixed, hbound, and_true]
  decide

theorem recovers_check_iff (sysinfo : Option SysInfo) (config : Config)
    : Recovers (check sysinfo config)
        ↔
      ∀ swap, getSwapInfo sysinfo = .ok swap → swap.total ≠ 0 → BelowThreshold config swap := by
  rw [recovers_iff]
  cases sysinfo with
  | none =>
    simp only [check, getSwapInfo, reduceCtorEq, false_implies, implies_true, iff_true]
    decide
  | some si =>
    unfold check Clean
    simp only [getSwapInfo, Except.ok.injEq, forall_eq']
    split
    . next htotal =>
      simp only [htotal, ne_eq, not_true_eq_false, false_implies, iff_true]
      decide
    . next htotal =>
      simp only [isPlain_message_iff, checkThresholds_ne_ok_iff, (isPlain_perfdata config _).2,
        htotal, not_false_eq_true, and_true, ne_eq, true_implies]

end SwapPlugin

namespace ZookeeperPlugin

/-- `sent` says whether the command could be sent, `response` is what came back. -/
def KeepsOutput (connected : Bool) (config : Config) (sent : Bool) (response : Bytes) : Prop :=
  config.hostname ≠ [] →
    if connected then
      sent = true → config.checkType = str "ruok" → contains response (str "imok") = false
        → IsPlain response
    else
      IsPlain config.hostname

theorem play_check (config : Config) (hhost : config.hostname ≠ []) (fates : List Bool)
    (responses : List Bytes)
    : (check true config).play fates responses
        =
      judge config.checkType (if fates.headD true then responses.headD [] else []) := by
  unfold check sendZookeeperCommand
  rw [if_neg hhost]
  cases fates with
  | nil => simp
  | cons ok fates => cases ok <;> simp [play]

theorem clean_judge_iff (checkType response : Bytes)
    : Clean (judge checkType response)
        ↔
      (checkType = str "ruok" → contains response (str "imok") = false → IsPlain response) := by
  unfold judge
  split
  . next hempty =>
    rw [hempty]
    exact iff_of_true (by decide) (fun _ _ => by decide)
  . split
    . next hruok =>
      simp only [hruok, true_implies]
      split
      . next himok =>
        simp only [himok, Bool.true_eq_false, false_implies, iff_true]
        decide
      . next himok =>
        rw [Bool.not_eq_true] at himok
        simp only [himok, Clean, isPlain_append, true_implies, List.not_mem_nil, not_false_eq_true,
          and_true, and_iff_right_iff_imp]
        intro _
        decide
    . next hruok =>
      simp only [hruok, false_implies, iff_true]
      split
      . split <;> decide
      . decide

theorem clean_cannotConnect_iff (config : Config)
    : Clean (cannotConnect config) ↔ IsPlain config.hostname := by
  have htext : IsPlain (str "Zookeeper CRITICAL - Cannot connect to ") := by decide
  have hcolon : IsPlain (str ":") := by decide
  simp [cannotConnect, Clean, htext, hcolon]

theorem recovers_of_run_iff (connected : Bool) (config : Config) {peer : Peer}
    {s : State PluginResult} {result : PluginResult} {ok : State PluginResult → Action → Prop}
    (h : Reaches (step peer) ok (start peer (check connected config)) s)
    (hdone : s.client = .done result)
    : Recovers result
        ↔
      KeepsOutput connected config (s.fates.headD true) (s.responses.headD []) := by
  have hplay := play_of_done h hdone
  rw [recovers_iff]
  unfold KeepsOutput
  by_cases hhost : config.hostname = []
  . rw [check, if_pos hhost] at hplay
    rw [← hplay, pure_eq_done, play_done]
    simp only [hhost, ne_eq, not_true_eq_false, false_implies, iff_true]
    decide
  . simp only [ne_eq, hhost, not_false_eq_true, true_implies]
    cases connected with
    | false =>
      rw [check, if_neg hhost] at hplay
      simp only [Bool.not_false, ↓reduceIte, pure_eq_done, play_done] at hplay
      rw [← hplay]
      simp only [clean_cannotConnect_iff, Bool.false_eq_true, ↓reduceIte]
    | true =>
      rw [play_check config hhost] at hplay
      rw [← hplay, clean_judge_iff]
      split
      . next hsent => simp only [hsent, ↓reduceIte, true_implies]
      . next hsent =>
        rw [Bool.not_eq_true] at hsent
        simp only [hsent, ↓reduceIte, Bool.false_eq_true, false_implies, iff_true]
        intro _ _
        decide

end ZookeeperPlugin

namespace ActivemqPlugin

def KeepsOutput (sslEnabled : Bool) (server : Server) (config : Config) : Prop :=
  config.hostname ≠ [] → ∀ response,
    httpGetAuth sslEnabled server config.hostname config.port (apiPath config.checkType) false
      config.timeoutSeconds config.username config.password = .ok (200, response)
      → IsPlain (extractJsonValue response (str "error"))

/-- Only the branch for TLS throws. -/
theorem httpGetAuth_plain (sslEnabled : Bool) (server : Server) (host : Bytes) (port : Int)
    (path : Bytes) (timeout : Int) (username password : Bytes)
    : ∃ answer, httpGetAuth sslEnabled server host port path false timeout username password
        = .ok answer := by
  unfold httpGetAuth
  simp only [Bool.and_false, Bool.false_eq_true, ↓reduceIte]
  split
  . exact ⟨_, rfl⟩
  . exact ⟨_, rfl⟩

theorem clean_judge_iff (checkType : Bytes) (statusCode : Int) (response : Bytes)
    : Clean (judge checkType statusCode response)
        ↔
      (statusCode = 200 → IsPlain (extractJsonValue response (str "error"))) := by
  unfold judge
  split
  . next hinvalid =>
    have hempty : IsPlain (extractJsonValue [] (str "error")) := by decide
    apply iff_of_true
    . simp only [Clean, isPlain_append, isPlain_intDec, and_true, List.not_mem_nil,
        not_false_eq_true]
      decide
    . intro hcode
      rw [hinvalid.resolve_left (not_not.mpr hcode)]
      exact hempty
  . next hvalid =>
    rw [not_or, not_not] at hvalid
    simp only [hvalid.1, true_implies]
    split
    . have hmessage : IsPlain (str "ActiveMQ CRITICAL - Jolokia API error: ") := by decide
      simp [Clean, hmessage]
    . next herror =>
      have hplain : IsPlain (extractJsonValue response (str "error")) := by
        rw [not_and, not_not] at herror
        by_cases hempty : extractJsonValue response (str "error") = []
        . rw [hempty]
          decide
        . rw [herror hempty]
          decide
      simp only [hplain, iff_true]
      split
      . unfold checkRuntime
        split <;> decide
      . decide

theorem recovers_check_iff (sslEnabled : Bool) (server : Server) (config : Config)
    : Recovers (check sslEnabled server config) ↔ KeepsOutput sslEnabled server config := by
  rw [recovers_iff]
  unfold check KeepsOutput
  split
  . next hhost =>
    simp only [hhost, ne_eq, not_true_eq_false, false_implies, iff_true]
    decide
  . next hhost =>
    obtain ⟨⟨statusCode, response⟩, hanswer⟩ := httpGetAuth_plain sslEnabled server config.hostname
      config.port (apiPath config.checkType) config.timeoutSeconds config.username config.password
    simp only [hhost, hanswer, ne_eq, not_false_eq_true, true_implies, Except.ok.injEq,
      Prod.mk.injEq, clean_judge_iff]
    constructor
    . rintro h response' ⟨hcode, rfl⟩
      exact h hcode
    . intro h hcode
      exact h response ⟨hcode, rfl⟩

end ActivemqPlugin

theorem recovers_iff_of_inputs (sysinfo : Option SwapPlugin.SysInfo) (swap : SwapPlugin.Config)
    (connected : Bool) (zookeeper : ZookeeperPlugin.Config) (peer : Peer) (s : State PluginResult)
    (answer : PluginResult)
    (hrun : Reaches (step peer) (fun _ _ => True)
      (start peer (ZookeeperPlugin.check connected zookeeper)) s)
    (hdone : s.client = .done answer)
    (sslEnabled : Bool) (server : Server) (activemq : ActivemqPlugin.Config)
    : (∀ result, Recovers result ↔ Clean result)
        ∧ (Recovers (SwapPlugin.check sysinfo swap)
          ↔ ∀ info, SwapPlugin.getSwapInfo sysinfo = .ok info → info.total ≠ 0
              → SwapPlugin.BelowThreshold swap info)
        ∧ (Recovers answer
          ↔ ZookeeperPlugin.KeepsOutput connected zookeeper (s.fates.headD true)
              (s.responses.headD []))
        ∧ (Recovers (ActivemqPlugin.check sslEnabled server activemq)
          ↔ ActivemqPlugin.KeepsOutput sslEnabled server activemq) := by
  refine ⟨?_, ?_, ?_, ?_⟩
  . apply recovers_iff
  . apply SwapPlugin.recovers_check_iff
  . apply ZookeeperPlugin.recovers_of_run_iff connected zookeeper hrun hdone
  . apply ActivemqPlugin.recovers_check_iff

def lowSwap : SwapPlugin.SysInfo := { totalswap := 4096, freeswap := 1024, mem_unit := 1024 }

def repliesWith (reply : Bytes) : Peer := fun heard => if heard = [] then [] else reply

theorem recovers_of_lowSwap
    : Recovers (SwapPlugin.check (some lowSwap) { criticalFree := 2048 })
        ∧ (∃ answer,
          outcome (repliesWith (str "imok"))
            (ZookeeperPlugin.check true { hostname := str "zk" })
            [.send true, .deliver 4, .timeout] = some answer
            ∧ Recovers answer)
        ∧ Recovers (ActivemqPlugin.check true (fun _ _ => .failed) { hostname := str "mq" }) := by
  have houtcome : (outcome (repliesWith (str "imok"))
      (ZookeeperPlugin.check true { hostname := str "zk" })
      [.send true, .deliver 4, .timeout]).isSome = true := by decide +kernel
  obtain ⟨answer, hanswer⟩ := Option.isSome_iff_exists.mp houtcome
  obtain ⟨s, hexec, hdone⟩ := (outcome_eq_some_iff _ _ _ _).mp hanswer
  have hreach : Reaches (step (repliesWith (str "imok"))) (fun _ _ => True)
      (start (repliesWith (str "imok")) (ZookeeperPlugin.check true { hostname := str "zk" })) s :=
    Reaches.of_exec _ (fun _ _ => trivial) .refl hexec
  obtain ⟨_, hswap, hzookeeper, hactivemq⟩ := recovers_iff_of_inputs (some lowSwap)
    { criticalFree := 2048 } true { hostname := str "zk" } (repliesWith (str "imok")) s answer
    hreach hdone true (fun _ _ => .failed) { hostname := str "mq" }
  refine ⟨hswap.mpr ?_, ⟨answer, hanswer, hzookeeper.mpr ?_⟩, hactivemq.mpr ?_⟩
  . intro info hinfo _
    simp only [SwapPlugin.getSwapInfo, Except.ok.injEq] at hinfo
    rw [← hinfo]
    left
    decide +kernel
  . intro _ _ _ himok
    have hresponses : (exec (step (repliesWith (str "imok")))
        (start (repliesWith (str "imok")) (ZookeeperPlugin.check true { hostname := str "zk" }))
        [.send true, .deliver 4, .timeout]).map (·.responses) = some [str "imok"] := by
      decide +kernel
    rw [hexec, Option.map_some, Option.some.injEq] at hresponses
    rw [hresponses] at himok
    contradiction
  . intro _ response hresponse
    simp [httpGetAuth] at hresponse

def notWhitelisted : Bytes := str "ruok is not executed because it is not in the whitelist.\n"

def jolokiaError : Server := fun _ _ =>
  .stream [{
    data := str "HTTP/1.1 200 OK\r\n\r\n\x7b\"error\":\"cannot read a|b\"\x7d"
    ne_nil := by decide
    length_le := by decide }]

/-- The good state of `check_swap` has a bar; the other two texts are what the server said. -/
theorem not_recovers_of_freeSwap
    : ¬ Recovers (SwapPlugin.check (some lowSwap) {})
        ∧ (∃ answer,
          outcome (repliesWith notWhitelisted)
            (ZookeeperPlugin.check true { hostname := str "zk" })
            [.send true, .deliver 57] = some answer
            ∧ ¬ Recovers answer)
        ∧ ¬ Recovers (ActivemqPlugin.check true jolokiaError { hostname := str "mq" }) := by
  refine ⟨?_, ⟨ZookeeperPlugin.judge (str "ruok") notWhitelisted, ?_, ?_⟩, ?_⟩
  . rw [recovers_iff]
    decide +kernel
  . decide +kernel
  . rw [recovers_iff]
    decide +kernel
  . rw [recovers_iff]
    decide +kernel

end NetmonPlugins

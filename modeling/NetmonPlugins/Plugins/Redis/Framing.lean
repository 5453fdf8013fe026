import NetmonPlugins.Net.Framing
import NetmonPlugins.Plugins.Redis.Impl
import NetmonPlugins.Rfc.Resp

/-!
This module contains the replies that `check_redis` takes from a stream cut at any place.
-/

namespace NetmonPlugins
namespace RedisPlugin

open Dialogue
open Resp (Reply)

def server (replies : List Reply) : Peer := answering (replies.map (·.bytes))

theorem asks_sendRedisCommand (command : Bytes) (f : Bytes → Dialogue β)
    (h : ∀ response, Asks isComplete (f response))
    : Asks isComplete (sendRedisCommand command >>= f) := by
  apply Asks.ask (commandBytes command) _ 8191 f rfl h

theorem asks_pingAndInfo : Asks isComplete pingAndInfo := by
  unfold pingAndInfo
  apply asks_sendRedisCommand
  intro pingResponse
  split
  . apply Asks.done
  . apply asks_sendRedisCommand
    intro infoResponse
    apply Asks.done

theorem asks_check (config : Config) : Asks isComplete (check true config) := by
  unfold check
  split
  . apply Asks.done
  . rw [if_neg (by decide)]
    split
    . apply asks_sendRedisCommand
      intro authResponse
      split
      . apply Asks.done
      . apply asks_pingAndInfo
    . apply asks_pingAndInfo

theorem framing_iff (config : Config) (replies : List Reply) (actions : List Action)
    (s : State PluginResult)
    (hprompt : Obeys (step (server replies)) Prompt (start (server replies) (check true config))
      actions)
    (hexec : exec (step (server replies)) (start (server replies) (check true config)) actions
      = some s)
    : Framed (replies.map (·.bytes)) s.responses
          ∧ (∀ result, s.client = .done result
            → result = (check true config).play [] (replies.map (·.bytes)))
        ↔
      Obeys (step (server replies)) NoEarlyStop (start (server replies) (check true config))
        actions := by
  have hzero : ∀ reply ∈ replies.map (·.bytes), (0 : UInt8) ∉ reply := by
    intro bytes hbytes
    obtain ⟨reply, _, rfl⟩ := List.mem_map.mp hbytes
    exact reply.zero_notMem
  rw [server, ← framed_iff hzero (asks_check config) hprompt hexec, and_iff_left_iff_imp]
  intro hframed result hdone
  exact hframed.result (Reaches.of_obeys actions hprompt .refl hexec) hdone

/-- A line is never cut short: only the texts of INFO have line ends inside. -/
theorem isComplete_of_line (marker : UInt8) (line : Resp.LineText) (n : Nat)
    (hmarker : marker ≠ 13) (hn : n < (marker :: line.text ++ crlf).length)
    : isComplete ((marker :: line.text ++ crlf).take n) = false := by
  have hlength : (marker :: line.text ++ crlf).length = line.text.length + 3 := by
    simp [crlf]
  have htake : ((marker :: line.text ++ crlf).take n).length = n := by
    rw [List.length_take]
    omega
  unfold isComplete
  rw [htake, List.getElem?_take]
  cases hlong : decide (n > 2) with
  | false => rfl
  | true =>
    rw [decide_eq_true_eq] at hlong
    rw [if_pos (by omega), Bool.true_and, decide_eq_false_iff_not]
    rw [List.getElem?_append_left (by rw [List.length_cons]; omega)]
    intro hcr
    cases List.mem_cons.mp (List.mem_of_getElem? hcr) with
    | inl heq => exact hmarker heq.symm
    | inr hmem => exact line.cr_notMem hmem

def pong : Reply := .simple
  { text := str "PONG"
    zero_notMem := by decide
    cr_notMem := by decide
    lf_notMem := by decide }

def serverInfo : Reply := .bulk
  { data := str "redis_version:7.2.4\r\nconnected_clients:3\r\n"
    zero_notMem := by decide }

def wholeRun : List Action := [.send true, .deliver 7, .send true, .deliver 30, .deliver 19]

theorem framing_of_wholeRun
    : ∃ s, exec (step (server [pong, serverInfo]))
          (start (server [pong, serverInfo]) (check true { hostname := str "cache" })) wholeRun
            = some s
        ∧ Framed [pong.bytes, serverInfo.bytes] s.responses := by
  have hrun : (outcome (server [pong, serverInfo]) (check true { hostname := str "cache" })
      wholeRun).isSome = true := by decide +kernel
  obtain ⟨result, hresult⟩ := Option.isSome_iff_exists.mp hrun
  obtain ⟨s, hexec, _⟩ := (outcome_eq_some_iff _ _ _ _).mp hresult
  refine ⟨s, hexec, ?_⟩
  apply ((framing_iff _ [pong, serverInfo] wholeRun s _ hexec).mpr _).1
  . decide +kernel
  . decide +kernel

/-- The second segment of INFO comes too late: the number of clients is missing from an OK. -/
theorem framing_of_innerLine
    : (outcome (server [pong, serverInfo]) (check true { hostname := str "cache" })
          [.send true, .deliver 7, .send true, .deliver 26]).map (fun r => (r.code, r.message))
          = some (.ok, str "Redis OK - Version 7.2.4,  clients,  used")
        ∧ ((check true { hostname := str "cache" }).play [] [pong.bytes, serverInfo.bytes]).message
          = str "Redis OK - Version 7.2.4, 3 clients,  used" := by
  decide +kernel

end RedisPlugin
end NetmonPlugins

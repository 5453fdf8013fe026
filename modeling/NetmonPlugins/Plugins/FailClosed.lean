import NetmonPlugins.Common.JsonUtils.States
import NetmonPlugins.Plugins.Ceph.Impl
import NetmonPlugins.Plugins.Elasticsearch.Impl
import NetmonPlugins.Plugins.Vault.Impl

/-!
This module determines for which bodies `check_elasticsearch`, `check_vault` and `check_ceph` report
OK without a member that says so.
-/

namespace NetmonPlugins

/-- The check is OK only on a member of the body that has one of the healthy values. -/
def FailClosed (code : ExitCode) (body key : Bytes) (healthy : List Bytes) : Prop :=
  code = .ok → ∃ value ∈ healthy, extractJsonValue body key = value ∧ States body key value

theorem failClosed_iff_of_code {code : ExitCode} {body key : Bytes} {healthy : List Bytes}
    {excused : Prop} (hkey : (46 : UInt8) ∉ key) (hne : [] ∉ healthy) (hcode : code ≠ .ok ↔ excused)
    : FailClosed code body key healthy ↔ extractJsonValue body key ∈ healthy ∨ excused := by
  rw [← hcode]
  constructor
  . intro h
    by_cases hok : code = .ok
    . obtain ⟨value, hvalue, hfound, _⟩ := h hok
      rw [hfound]
      exact .inl hvalue
    . exact .inr hok
  . rintro (hhealthy | hcode) hok
    . have hfound : extractJsonValue body key ≠ [] := by
        intro hnil
        rw [hnil] at hhealthy
        exact hne hhealthy
      exact ⟨_, hhealthy, rfl, states_of_extractJsonValue hkey hfound⟩
    . exact absurd hok hcode

namespace ElasticsearchPlugin

theorem check_of_response {sslEnabled : Bool} {server : Server} {config : Config} {body : Bytes}
    (hhost : config.hostname ≠ []) (hbody : body ≠ [])
    (h : httpGetAuth sslEnabled server config.hostname config.port path false config.timeoutSeconds
      config.username config.password = .ok (200, body))
    : check sslEnabled server config = judge body := by
  unfold check checkCluster
  rw [if_neg hhost, if_pos (show checkClusterHealth = true from rfl), h]
  simp [hbody]

theorem judge_code_ne_ok_iff (body : Bytes)
    : (judge body).code ≠ .ok
        ↔
      extractJsonValue body (str "status") = str "red"
        ∨ extractJsonValue body (str "status") = str "yellow" := by
  unfold judge
  dsimp only
  rw [PluginResult.code_ite_ne_ok_iff (by simp), PluginResult.code_ite_ne_ok_iff (by simp)]
  simp only [ne_eq, not_true_eq_false, or_false]

end ElasticsearchPlugin

namespace VaultPlugin

theorem check_health_of_response {sslEnabled : Bool} {server : Server} {config : Config}
    {body : Bytes} (hhost : config.hostname ≠ []) (hmode : config.checkType = str "health")
    (hbody : body ≠ [])
    (h : httpGet sslEnabled server config.hostname config.port (apiPath config.checkType) false
      config.timeoutSeconds = .ok (200, body))
    : check sslEnabled server config = checkHealth 200 body := by
  unfold check
  rw [if_neg hhost, h]
  simp [hbody, hmode]

theorem check_seal_of_response {sslEnabled : Bool} {server : Server} {config : Config}
    {body : Bytes} (hhost : config.hostname ≠ []) (hmode : config.checkType = str "seal")
    (hbody : body ≠ [])
    (h : httpGet sslEnabled server config.hostname config.port (apiPath config.checkType) false
      config.timeoutSeconds = .ok (200, body))
    : check sslEnabled server config = checkSeal 200 body := by
  have hother : str "seal" ≠ str "health" := by decide
  unfold check
  rw [if_neg hhost, h]
  simp [hbody, hmode, hother]

theorem checkHealth_code_ne_ok_iff (body : Bytes)
    : (checkHealth 200 body).code ≠ .ok
        ↔
      extractJsonValue body (str "sealed") = str "true"
        ∨ extractJsonValue body (str "initialized") = str "false" := by
  unfold checkHealth
  rw [if_pos rfl]
  dsimp only
  rw [PluginResult.code_ite_ne_ok_iff (by simp), PluginResult.code_ite_ne_ok_iff (by simp)]
  simp only [ne_eq, not_true_eq_false, or_false]

theorem checkSeal_code_ne_ok_iff (body : Bytes)
    : (checkSeal 200 body).code ≠ .ok
        ↔
      extractJsonValue body (str "sealed") = str "true" := by
  unfold checkSeal
  rw [if_pos rfl]
  dsimp only
  rw [PluginResult.code_ite_ne_ok_iff (by simp)]
  simp only [ne_eq, not_true_eq_false, or_false]

end VaultPlugin

namespace CephPlugin

theorem check_status_of_response {sslEnabled : Bool} {server : Server} {config : Config}
    {body : Bytes} (hhost : config.hostname ≠ [])
    (hmode : config.checkType = str "status" ∨ config.checkType = str "osd") (hbody : body ≠ [])
    (h : httpGetAuth sslEnabled server config.hostname config.port (apiPath config.checkType) false
      config.timeoutSeconds config.username config.password = .ok (200, body))
    : check sslEnabled server config = checkStatus 200 body := by
  have hother : config.checkType ≠ str "health" := by
    cases hmode with
    | inl hmode =>
      rw [hmode]
      decide
    | inr hmode =>
      rw [hmode]
      decide
  unfold check
  rw [if_neg hhost, h]
  simp [hbody, hmode, hother]

def healthy : List Bytes := [str "HEALTH_OK", str "ok"]

theorem checkStatus_code_ne_ok_iff (body : Bytes)
    : (checkStatus 200 body).code ≠ .ok
        ↔
      extractJsonValue body (str "health") ≠ []
        ∧ extractJsonValue body (str "health") ∉ healthy := by
  have hmem : ∀ health, health ∈ healthy ↔ health = str "HEALTH_OK" ∨ health = str "ok" := by
    simp [healthy]
  unfold checkStatus
  rw [if_pos rfl, hmem]
  dsimp only
  split
  . next hfound =>
    split
    . next hok => exact iff_of_false (by simp) fun h => h.2 hok
    . next hok =>
      split
      . exact iff_of_true (by simp) ⟨hfound, hok⟩
      . exact iff_of_true (by simp) ⟨hfound, hok⟩
  . next hfound => exact iff_of_false (by simp) fun h => hfound h.1

theorem mem_healthy_or_other_iff (health : Bytes)
    : health ∈ healthy ∨ (health ≠ [] ∧ health ∉ healthy) ↔ health ≠ [] := by
  constructor
  . rintro (hhealthy | hother)
    . intro hnil
      rw [hnil] at hhealthy
      revert hhealthy
      decide
    . exact hother.1
  . intro hfound
    by_cases hhealthy : health ∈ healthy
    . exact .inl hhealthy
    . exact .inr ⟨hfound, hhealthy⟩

end CephPlugin

/--
A check fails closed on a body if and only if it finds its member there with a value that it has a
branch for. `check_ceph` has a branch for every value, and `check_vault` also looks at
`initialized`.
-/
theorem failClosed_iff (sslEnabled : Bool) (server : Server) (body : Bytes) (hbody : body ≠ [])
    : (∀ config : ElasticsearchPlugin.Config, config.hostname ≠ []
        → httpGetAuth sslEnabled server config.hostname config.port ElasticsearchPlugin.path false
            config.timeoutSeconds config.username config.password = .ok (200, body)
        → (FailClosed (ElasticsearchPlugin.check sslEnabled server config).code body (str "status")
              [str "green"]
            ↔
          extractJsonValue body (str "status") ∈ [str "green", str "red", str "yellow"]))
        ∧
      (∀ config : VaultPlugin.Config, config.hostname ≠ []
        → httpGet sslEnabled server config.hostname config.port
            (VaultPlugin.apiPath config.checkType) false config.timeoutSeconds = .ok (200, body)
        → (config.checkType = str "health"
            → (FailClosed (VaultPlugin.check sslEnabled server config).code body (str "sealed")
                  [str "false"]
                ↔
              extractJsonValue body (str "sealed") ∈ [str "false", str "true"]
                ∨ extractJsonValue body (str "initialized") = str "false"))
          ∧ (config.checkType = str "seal"
            → (FailClosed (VaultPlugin.check sslEnabled server config).code body (str "sealed")
                  [str "false"]
                ↔
              extractJsonValue body (str "sealed") ∈ [str "false", str "true"])))
        ∧
      (∀ config : CephPlugin.Config, config.hostname ≠ []
        → config.checkType = str "status" ∨ config.checkType = str "osd"
        → httpGetAuth sslEnabled server config.hostname config.port
            (CephPlugin.apiPath config.checkType) false config.timeoutSeconds config.username
            config.password = .ok (200, body)
        → (FailClosed (CephPlugin.check sslEnabled server config).code body (str "health")
              CephPlugin.healthy
            ↔
          extractJsonValue body (str "health") ≠ [])) := by
  refine ⟨?_, ?_, ?_⟩
  . intro config hhost hresponse
    rw [ElasticsearchPlugin.check_of_response hhost hbody hresponse,
      failClosed_iff_of_code (by decide) (by decide)
        (ElasticsearchPlugin.judge_code_ne_ok_iff body)]
    simp
  . intro config hhost hresponse
    constructor
    . intro hmode
      rw [VaultPlugin.check_health_of_response hhost hmode hbody hresponse,
        failClosed_iff_of_code (by decide) (by decide)
          (VaultPlugin.checkHealth_code_ne_ok_iff body)]
      simp [or_assoc]
    . intro hmode
      rw [VaultPlugin.check_seal_of_response hhost hmode hbody hresponse,
        failClosed_iff_of_code (by decide) (by decide)
          (VaultPlugin.checkSeal_code_ne_ok_iff body)]
      simp
  . intro config hhost hmode hresponse
    rw [CephPlugin.check_status_of_response hhost hmode hbody hresponse,
      failClosed_iff_of_code (by decide) (by decide)
        (CephPlugin.checkStatus_code_ne_ok_iff body),
      CephPlugin.mem_healthy_or_other_iff]

def greenCluster : Server := fun _ _ =>
  .stream [{
    data := str "HTTP/1.1 200 OK\r\n\r\n\x7b\"status\": \"green\"\x7d"
    ne_nil := by decide
    length_le := by decide }]

theorem failClosed_of_green
    : (ElasticsearchPlugin.check true greenCluster { hostname := str "es" }).code = .ok
        ∧
      FailClosed (ElasticsearchPlugin.check true greenCluster { hostname := str "es" }).code
        (str "\x7b\"status\": \"green\"\x7d") (str "status") [str "green"] := by
  constructor
  . decide +kernel
  . apply ((failClosed_iff true greenCluster (str "\x7b\"status\": \"green\"\x7d") (by decide)).1
      { hostname := str "es" } (by decide) (by decide +kernel)).mpr
    decide

def emptyObject : Server := fun _ _ =>
  .stream [{
    data := str "HTTP/1.1 200 OK\r\n\r\n\x7b\x7d"
    ne_nil := by decide
    length_le := by decide }]

theorem not_failClosed {code : ExitCode} {body key : Bytes} {healthy : List Bytes}
    (hok : code = .ok) (hfound : extractJsonValue body key ∉ healthy)
    : ¬ FailClosed code body key healthy := by
  intro h
  obtain ⟨value, hvalue, heq, _⟩ := h hok
  rw [heq] at hfound
  exact hfound hvalue

theorem ok_of_emptyObject
    : ¬ FailClosed (ElasticsearchPlugin.check true emptyObject { hostname := str "es" }).code
        (str "\x7b\x7d") (str "status") [str "green"]
        ∧
      ¬ FailClosed (VaultPlugin.check true emptyObject { hostname := str "vault" }).code
        (str "\x7b\x7d") (str "sealed") [str "false"]
        ∧
      ¬ FailClosed
        (VaultPlugin.check true emptyObject
          { hostname := str "vault", checkType := str "seal" }).code
        (str "\x7b\x7d") (str "sealed") [str "false"]
        ∧
      ¬ FailClosed
        (CephPlugin.check true emptyObject
          { hostname := str "ceph", checkType := str "status" }).code
        (str "\x7b\x7d") (str "health") CephPlugin.healthy
        ∧
      ¬ FailClosed
        (CephPlugin.check true emptyObject { hostname := str "ceph", checkType := str "osd" }).code
        (str "\x7b\x7d") (str "health") CephPlugin.healthy := by
  refine ⟨?_, ?_, ?_, ?_, ?_⟩
  . exact not_failClosed (by decide +kernel) (by decide)
  . exact not_failClosed (by decide +kernel) (by decide)
  . exact not_failClosed (by decide +kernel) (by decide)
  . exact not_failClosed (by decide +kernel) (by decide)
  . exact not_failClosed (by decide +kernel) (by decide)

end NetmonPlugins

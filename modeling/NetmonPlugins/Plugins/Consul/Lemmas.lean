import NetmonPlugins.Common.HttpApi.Response
import NetmonPlugins.Plugins.Consul.Impl

/-!
This module follows a health document through `httpGet` into the search of `check_consul`.
-/

namespace NetmonPlugins
namespace ConsulPlugin

theorem check_health_of_response (sslEnabled : Bool) (server : Server) (config : Config)
    (chunks : List (Chunk 8191)) (head : Http.Head) (body : Bytes)
    (hhost : config.hostname ≠ []) (hmode : config.checkType = str "health")
    (hserver : server false
      (httpGetAuth.request config.hostname config.port (str "/v1/health/state/any") [] [])
        = .stream chunks)
    (hstream : streamOf chunks = head.text ++ body) (hcode : head.status.code = 200)
    (hnul : (0 : UInt8) ∉ head.text ++ body) (hbody : body ≠ [])
    : check sslEnabled server config = checkHealth body := by
  have hpath : apiPath config.checkType = str "/v1/health/state/any" := by
    rw [hmode]
    decide
  unfold check httpGet
  rw [if_neg hhost, hpath]
  rw [httpGetAuth_of_response _ _ _ _ _ _ _ _ _ chunks head body _ hstream hnul]
  . simp only
    rw [hcode, if_neg, if_pos hmode]
    intro h
    cases h with
    | inl h => contradiction
    | inr h => contradiction
  . rw [Bool.and_false]
    exact hserver

def chunkedHead : Http.Head where
  status := okStatus
  fields := [
    { name := str "Transfer-Encoding"
      value := str " chunked"
      name_ne_nil := by decide
      name_token := List.all_eq_true.mp (by decide)
      value_text := List.all_eq_true.mp (by decide) }]

def criticalHealth : Bytes := str "[\x7b\"Status\":\"critical\"\x7d]"

def criticalHealthChunked : Bytes :=
  str "10\r\n[\x7b\"Status\":\"crit\r\n7\r\nical\"\x7d]\r\n0\r\n\r\n"

theorem carries_criticalHealthChunked
    : Http.Carries .chunked chunkedHead criticalHealth criticalHealthChunked := by
  refine ⟨by decide, ⟨_, rfl, by decide⟩, ?_⟩
  have hlast := Http.ChunkedBody.last (str "0") [] [] (by decide) (by decide)
  have hical := Http.ChunkedBody.chunk (str "7") [] (str "ical\"\x7d]") [] _ (by decide) (by decide)
    (by decide) hlast
  exact Http.ChunkedBody.chunk (str "10") [] (str "[\x7b\"Status\":\"crit") _ _ (by decide)
    (by decide) (by decide) hical

def chunkedServer : Server := fun _ _ =>
  .stream [{
    data := chunkedHead.text ++ criticalHealthChunked
    ne_nil := by decide
    length_le := by decide }]

theorem httpGetAuth_chunked_ne_payload
    : Http.Carries .chunked chunkedHead criticalHealth criticalHealthChunked
        ∧
      chunkedHead.status.code = 200
        ∧
      (0 : UInt8) ∉ chunkedHead.text ++ criticalHealthChunked
        ∧
      httpGetAuth true chunkedServer (str "consul") 8500 (str "/v1/health/state/any") false 10 [] []
        ≠
      .ok (200, criticalHealth)
        ∧
      (check true chunkedServer { hostname := str "consul" }).code = .ok
        ∧
      (checkHealth criticalHealth).code = .critical := by
  have hnul : (0 : UInt8) ∉ chunkedHead.text ++ criticalHealthChunked := by decide
  refine ⟨carries_criticalHealthChunked, rfl, hnul, ?_, ?_, by decide⟩
  . have hresponse := httpGetAuth_of_response true chunkedServer (str "consul") 8500
      (str "/v1/health/state/any") false 10 [] [] _ chunkedHead criticalHealthChunked rfl
      (by simp [streamOf]) hnul
    rw [hresponse]
    decide
  . have hcheck := check_health_of_response true chunkedServer { hostname := str "consul" } _
      chunkedHead criticalHealthChunked (by decide) rfl rfl (by simp [streamOf]) rfl hnul (by decide)
    rw [hcheck]
    decide

end ConsulPlugin
end NetmonPlugins

import NetmonPlugins.Common.HttpApi.Response
import NetmonPlugins.Plugins.Influxdb.Impl

/-!
This module determines which successful responses to `/ping` the check accepts.
-/

namespace NetmonPlugins
namespace InfluxdbPlugin

theorem request_of_nil (host : Bytes) (port : Int) (path password : Bytes)
    : httpGetAuth.request host port path [] password = httpGetAuth.request host port path [] [] := by
  simp [httpGetAuth.request]

theorem fetch_of_envelope {sslEnabled : Bool} {server : Server} {config : Config}
    {chunks : List (Chunk 8191)} {envelope : Http.Envelope} {body : Bytes}
    (hserver : server false (httpGetAuth.request config.hostname config.port
      (apiPath config.checkType) config.username config.password) = .stream chunks)
    (hstream : streamOf chunks = envelope.text ++ body)
    (hnul : (0 : UInt8) ∉ envelope.text)
    : fetch sslEnabled server config
        =
      .ok ((envelope.code.val : Int), (shares envelope.text.length chunks).flatMap cstr) := by
  have hparse : httpGetAuth.parse (sslEnabled && false) (recvLoop chunks [])
      = .ok ((envelope.code.val : Int), (shares envelope.text.length chunks).flatMap cstr) := by
    rw [recvLoop_of_append _ _ _ hstream hnul, httpGetAuth.parse_envelope]
  rw [← Bool.and_false sslEnabled] at hserver
  unfold fetch
  split
  . rw [httpGetAuth_of_stream _ _ _ _ _ _ _ _ _ _ hserver, hparse]
  . next husername =>
    rw [ne_eq, not_not] at husername
    rw [husername, request_of_nil] at hserver
    unfold httpGet
    rw [httpGetAuth_of_stream _ _ _ _ _ _ _ _ _ _ hserver, hparse]

/-- A segment brings a byte of the body that is not lost: none in front of it is a zero byte. -/
def BringsBody (envelope : Http.Envelope) (chunks : List (Chunk 8191)) : Prop :=
  ∃ share ∈ shares envelope.text.length chunks, ∃ b ∈ share.head?, b ≠ 0

theorem flatMap_cstr_eq_nil_iff (envelope : Http.Envelope) (chunks : List (Chunk 8191))
    : (shares envelope.text.length chunks).flatMap cstr = [] ↔ ¬ BringsBody envelope chunks := by
  unfold BringsBody
  rw [List.flatMap_eq_nil_iff]
  constructor
  . rintro h ⟨share, hshare, b, hb, hne⟩
    obtain ⟨rest, hrest⟩ := List.head?_eq_some_iff.mp hb
    have hempty := h share hshare
    rw [hrest] at hempty
    simp [cstr, hne] at hempty
  . intro h share hshare
    cases share with
    | nil => rfl
    | cons b rest =>
      have hzero : b = 0 := by
        by_contra hne
        exact h ⟨b :: rest, hshare, b, rfl, hne⟩
      simp [cstr, hzero]

theorem bringsBody_iff_of_notMem {envelope : Http.Envelope} {chunks : List (Chunk 8191)}
    (body : Bytes) (hstream : streamOf chunks = envelope.text ++ body)
    (hnul : (0 : UInt8) ∉ envelope.text ++ body)
    : BringsBody envelope chunks ↔ body ≠ [] := by
  have hreceived : (shares envelope.text.length chunks).flatMap cstr = body := by
    rw [← List.append_right_inj envelope.text]
    rw [← recvLoop_of_append _ _ _ hstream (fun h => hnul (List.mem_append_left _ h)),
      recvLoop_of_notMem _ (hstream ▸ hnul), hstream]
  rw [← hreceived, ne_eq, flatMap_cstr_eq_nil_iff, not_not]

theorem judge_ping_ok_iff {config : Config} (hping : config.checkType = str "ping")
    {statusCode : Int} (hcode : statusCode = 204 ∨ statusCode = 200) (response : Bytes)
    : (judge config statusCode response).code = .ok ↔ response ≠ [] := by
  have hne : statusCode ≠ 0 := by omega
  unfold judge checkPing
  rw [if_pos hping, if_pos hcode]
  by_cases hresponse : response = []
  . simp [hresponse]
  . simp [hresponse, hne]

/-- A successful ping is accepted only if its response brings a body. -/
theorem check_ping_ok_iff (sslEnabled : Bool) (server : Server) (config : Config)
    (chunks : List (Chunk 8191)) (envelope : Http.Envelope) (body : Bytes)
    (hhostname : config.hostname ≠ []) (hping : config.checkType = str "ping")
    (hserver : server false (httpGetAuth.request config.hostname config.port (str "/ping")
      config.username config.password) = .stream chunks)
    (hstream : streamOf chunks = envelope.text ++ body)
    (hnul : (0 : UInt8) ∉ envelope.text)
    (hcode : envelope.code = 204 ∨ envelope.code = 200)
    : (check sslEnabled server config).code = .ok ↔ BringsBody envelope chunks := by
  have hpath : apiPath config.checkType = str "/ping" := by
    unfold apiPath
    rw [if_pos hping]
  have hstatus : (envelope.code.val : Int) = 204 ∨ (envelope.code.val : Int) = 200 := by
    rcases hcode with hcode | hcode
    . rw [hcode]
      exact .inl rfl
    . rw [hcode]
      exact .inr rfl
  rw [← hpath] at hserver
  unfold check
  rw [if_neg hhostname, fetch_of_envelope hserver hstream hnul]
  dsimp only
  rw [judge_ping_ok_iff hping hstatus, ne_eq, flatMap_cstr_eq_nil_iff, not_not]

def noContent : Http.Envelope :=
  { okEnvelope with
    code := ⟨204, by decide⟩
    reason := str "No Content"
    headers := [str "X-Influxdb-Version: 1.8.10"]
    reason_line := Http.not_crlf_isInfix (by decide)
    headers_line := by decide }

theorem check_ping_verbose
    : (check true
        (fun _ _ => .stream [{
          data := okEnvelope.text ++ str "pong"
          ne_nil := by decide
          length_le := by decide }])
        { hostname := str "tsdb" }).code = .ok := by
  apply (check_ping_ok_iff true _ { hostname := str "tsdb" } _ okEnvelope (str "pong") (by decide) rfl
    rfl (by simp [streamOf]) (by decide) (.inr rfl)).mpr
  apply (bringsBody_iff_of_notMem (str "pong") (by simp [streamOf]) (by decide)).mpr
  decide

/-- The documented success has no body. -/
theorem check_ping_noContent
    : (check true
        (fun _ _ => .stream [{
          data := noContent.text
          ne_nil := by decide
          length_le := by decide }])
        { hostname := str "tsdb" }).code = .critical := by
  decide

end InfluxdbPlugin
end NetmonPlugins

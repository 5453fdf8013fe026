import NetmonPlugins.Common.HttpApi.Receive
import NetmonPlugins.Plugins.Activemq.Impl
import NetmonPlugins.Plugins.Apache.Impl
import NetmonPlugins.Plugins.Ceph.Impl
import NetmonPlugins.Plugins.Connectivity.Impl
import NetmonPlugins.Plugins.Consul.Impl
import NetmonPlugins.Plugins.Couchbase.Impl
import NetmonPlugins.Plugins.Elasticsearch.Impl
import NetmonPlugins.Plugins.Etcd.Impl
import NetmonPlugins.Plugins.Grafana.Impl
import NetmonPlugins.Plugins.Influxdb.Impl
import NetmonPlugins.Plugins.Kubernetes.Impl
import NetmonPlugins.Plugins.Nomad.Impl
import NetmonPlugins.Plugins.Phpfpm.Impl
import NetmonPlugins.Plugins.Prometheus.Impl
import NetmonPlugins.Plugins.Rabbitmq.Impl
import NetmonPlugins.Plugins.Solr.Impl
import NetmonPlugins.Plugins.Vault.Impl

/-!
This module determines what the checks that ask an HTTP API have received where they are not
critical: a response with one of the status codes they accept, and with a body.
-/

namespace NetmonPlugins

/-- The exit codes that say that there was an answer. -/
def ExitCode.isAnswer : ExitCode → Bool
  | .ok => true
  | .warning => true
  | .critical => false
  | .unknown => false

namespace httpGetAuth

/-- The text is a head with this status code and the body behind its first empty line. -/
def IsResponse (text : Bytes) (statusCode : Int) (body : Bytes) : Prop :=
  ∃ headers codeStr, text = headers ++ (crlf ++ crlf ++ body)
    ∧ find text (crlf ++ crlf) 0 = some headers.length ∧ codeText headers = some codeStr
    ∧ stoi codeStr = .ok statusCode

theorem isResponse_of_parse {tls : Bool} {text body : Bytes} {statusCode : Int}
    (h : parse tls text = .ok (statusCode, body)) (hne : statusCode ≠ 0)
    : IsResponse text statusCode body := by
  unfold parse parseTls parsePlain at h
  cases hfind : find text (crlf ++ crlf) 0 with
  | none =>
    simp only [hfind, ite_self, Except.ok.injEq, Prod.mk.injEq] at h
    exact absurd h.1.symm hne
  | some headerEnd =>
    obtain ⟨-, hle, hat, -⟩ := (find_eq_some_iff _ _ _ _).mp hfind
    have htext : text = text.take headerEnd ++ (crlf ++ crlf ++ text.drop (headerEnd + 4)) := by
      obtain ⟨behind, hbehind⟩ := hat
      have hdrop : text.drop (headerEnd + 4) = behind := by
        rw [← List.drop_drop, ← hbehind]
        rfl
      rw [hdrop, hbehind, List.take_append_drop]
    have hlength : (text.take headerEnd).length = headerEnd := List.length_take_of_le hle
    simp only [hfind] at h
    cases hcode : codeText (substr text 0 headerEnd) with
    | none =>
      simp only [hcode, ite_self, Except.ok.injEq, Prod.mk.injEq] at h
      exact absurd h.1.symm hne
    | some codeStr =>
      simp only [hcode] at h
      cases hstoi : stoi codeStr with
      | error e =>
        simp only [hstoi] at h
        split at h
        . contradiction
        . simp only [Except.ok.injEq, Prod.mk.injEq] at h
          exact absurd h.1.symm hne
      | ok value =>
        simp only [hstoi, ite_self, Except.ok.injEq, Prod.mk.injEq] at h
        obtain ⟨rfl, rfl⟩ := h
        refine ⟨text.take headerEnd, codeStr, htext, ?_, ?_, hstoi⟩
        . rw [hlength, hfind]
        . simpa [substr] using hcode

end httpGetAuth

/-- The request of a check, and where it goes. -/
structure Query where
  host : Bytes
  port : Int
  path : Bytes
  useSSL : Bool := false
  timeout : Int
  username : Bytes := []
  password : Bytes := []

def Query.fetch (query : Query) (sslEnabled : Bool) (server : Server)
    : Except StdException (Int × Bytes) :=
  httpGetAuth sslEnabled server query.host query.port query.path query.useSSL query.timeout
    query.username query.password

/-- The server answers the request with a response of this status code and this body, in whatever
pieces it arrives, of each of which the client keeps what stands in front of a NUL byte. -/
def Query.Answers (query : Query) (sslEnabled : Bool) (server : Server) (statusCode : Int)
    (body : Bytes) : Prop :=
  ∃ chunks,
    server (sslEnabled && query.useSSL)
        (httpGetAuth.request query.host query.port query.path query.username query.password)
      = .stream chunks
    ∧ httpGetAuth.IsResponse (recvLoop chunks []) statusCode body

theorem Query.answers_of_fetch {query : Query} {sslEnabled : Bool} {server : Server}
    {statusCode : Int} {body : Bytes}
    (h : query.fetch sslEnabled server = .ok (statusCode, body)) (hne : statusCode ≠ 0)
    : query.Answers sslEnabled server statusCode body := by
  cases hserver : server (sslEnabled && query.useSSL)
      (httpGetAuth.request query.host query.port query.path query.username query.password) with
  | failed =>
    unfold Query.fetch httpGetAuth at h
    cases htls : sslEnabled && query.useSSL with
    | true => simp_all
    | false => simp_all
  | stream chunks =>
    unfold Query.fetch at h
    rw [httpGetAuth_of_stream _ _ _ _ _ _ _ _ _ _ hserver] at h
    exact ⟨chunks, hserver, httpGetAuth.isResponse_of_parse h hne⟩

def Query.Fetches (query : Query) (sslEnabled : Bool) (server : Server)
    (accepts : Int → Bytes → Prop) : Prop :=
  ∃ statusCode body, query.fetch sslEnabled server = .ok (statusCode, body)
    ∧ accepts statusCode body

theorem isAnswer_ite {p : Prop} [Decidable p] {bad other : PluginResult}
    (hbad : bad.code.isAnswer = false) (h : (if p then bad else other).code.isAnswer = true)
    : ¬ p ∧ other.code.isAnswer = true := by
  split at h
  . rw [hbad] at h
    contradiction
  . next hp => exact ⟨hp, h⟩

theorem isAnswer_ite_not {p : Prop} [Decidable p] {bad other : PluginResult}
    (hbad : bad.code.isAnswer = false) (h : (if p then other else bad).code.isAnswer = true)
    : p ∧ other.code.isAnswer = true := by
  split at h
  . next hp => exact ⟨hp, h⟩
  . rw [hbad] at h
    contradiction

def Found (statusCode : Int) (body : Bytes) : Prop := statusCode = 200 ∧ body ≠ []

theorem found_of_guard {statusCode : Int} {body : Bytes} {bad other : PluginResult}
    (hbad : bad.code.isAnswer = false)
    (h : (if statusCode ≠ 200 ∨ body = [] then bad else other).code.isAnswer = true)
    : Found statusCode body := by
  have hguard := (isAnswer_ite hbad h).1
  rwa [not_or, not_not] at hguard

/-- How a check goes on from what it has fetched. -/
def concluded (failed : StdException → PluginResult) (judge : Int → Bytes → PluginResult)
    : Except StdException (Int × Bytes) → PluginResult
  | .error e => failed e
  | .ok (statusCode, body) => judge statusCode body

section

variable {sslEnabled : Bool} {server : Server}

theorem fetches_of_concluded {query : Query} {host : Bytes} {unnamed : PluginResult}
    {failed : StdException → PluginResult} {judge : Int → Bytes → PluginResult}
    {accepts : Int → Bytes → Prop} (hunnamed : unnamed.code.isAnswer = false)
    (hfailed : ∀ e, (failed e).code.isAnswer = false)
    (haccepts : ∀ statusCode body, (judge statusCode body).code.isAnswer = true
      → accepts statusCode body)
    (h : (if host = [] then
        unnamed
      else
        concluded failed judge (query.fetch sslEnabled server)).code.isAnswer = true)
    : query.Fetches sslEnabled server accepts := by
  have hconcluded := (isAnswer_ite hunnamed h).2
  cases hfetch : query.fetch sslEnabled server with
  | error e =>
    rw [hfetch] at hconcluded
    exact absurd hconcluded (by simp [concluded, hfailed])
  | ok answer =>
    rw [hfetch] at hconcluded
    exact ⟨answer.1, answer.2, hfetch, haccepts _ _ hconcluded⟩

namespace ActivemqPlugin

def query (config : Config) : Query where
  host := config.hostname
  port := config.port
  path := apiPath config.checkType
  timeout := config.timeoutSeconds
  username := config.username
  password := config.password

theorem fetches_of_check {config : Config}
    (h : (check sslEnabled server config).code.isAnswer = true)
    : (query config).Fetches sslEnabled server Found :=
  fetches_of_concluded rfl (fun _ => rfl) (fun _ _ => found_of_guard rfl) h

end ActivemqPlugin

namespace ApachePlugin

def query (sslEnabled : Bool) (config : Config) : Query where
  host := (config.withAvailableSsl sslEnabled).hostname
  port := (config.withAvailableSsl sslEnabled).port
  path := (config.withAvailableSsl sslEnabled).serverStatusPath
  useSSL := (config.withAvailableSsl sslEnabled).useSSL
  timeout := (config.withAvailableSsl sslEnabled).timeoutSeconds

theorem fetches_of_check {config : Config}
    (h : (check sslEnabled server config).code.isAnswer = true)
    : (query sslEnabled config).Fetches sslEnabled server Found :=
  fetches_of_concluded rfl (fun _ => rfl) (fun _ _ => found_of_guard rfl) h

end ApachePlugin

namespace ConsulPlugin

def query (config : Config) : Query where
  host := config.hostname
  port := config.port
  path := apiPath config.checkType
  timeout := config.timeoutSeconds

theorem fetches_of_check {config : Config}
    (h : (check sslEnabled server config).code.isAnswer = true)
    : (query config).Fetches sslEnabled server Found :=
  fetches_of_concluded rfl (fun _ => rfl) (fun _ _ => found_of_guard rfl) h

end ConsulPlugin

namespace CouchbasePlugin

def query (config : Config) : Query where
  host := config.hostname
  port := config.port
  path := apiPath config.checkType
  timeout := config.timeoutSeconds
  username := config.username
  password := config.password

theorem fetches_of_check {config : Config}
    (h : (check sslEnabled server config).code.isAnswer = true)
    : (query config).Fetches sslEnabled server Found :=
  fetches_of_concluded rfl (fun _ => rfl) (fun _ _ => found_of_guard rfl) h

end CouchbasePlugin

namespace NomadPlugin

def query (config : Config) : Query where
  host := config.hostname
  port := config.port
  path := apiPath config.checkType
  timeout := config.timeoutSeconds

theorem fetches_of_check {config : Config}
    (h : (check sslEnabled server config).code.isAnswer = true)
    : (query config).Fetches sslEnabled server Found :=
  fetches_of_concluded rfl (fun _ => rfl) (fun _ _ => found_of_guard rfl) h

end NomadPlugin

namespace PhpfpmPlugin

def query (sslEnabled : Bool) (config : Config) : Query where
  host := (config.withAvailableSsl sslEnabled).hostname
  port := (config.withAvailableSsl sslEnabled).port
  path := if (config.withAvailableSsl sslEnabled).checkPing then
    (config.withAvailableSsl sslEnabled).pingPath
  else
    (config.withAvailableSsl sslEnabled).statusPath
  useSSL := (config.withAvailableSsl sslEnabled).useSSL
  timeout := (config.withAvailableSsl sslEnabled).timeoutSeconds

theorem fetches_of_check {config : Config}
    (h : (check sslEnabled server config).code.isAnswer = true)
    : (query sslEnabled config).Fetches sslEnabled server Found :=
  fetches_of_concluded rfl (fun _ => rfl) (fun _ _ => found_of_guard rfl) h

end PhpfpmPlugin

namespace PrometheusPlugin

def query (config : Config) : Query where
  host := config.hostname
  port := config.port
  path := config.path
  timeout := config.timeoutSeconds

theorem fetches_of_check {config : Config}
    (h : (check sslEnabled server config).code.isAnswer = true)
    : (query config).Fetches sslEnabled server Found :=
  fetches_of_concluded rfl (fun _ => rfl) (fun _ _ => found_of_guard rfl) h

end PrometheusPlugin

namespace RabbitmqPlugin

def query (config : Config) : Query where
  host := config.hostname
  port := config.port
  path := apiPath config.queueName
  timeout := config.timeoutSeconds
  username := config.username
  password := config.password

theorem fetches_of_check {config : Config}
    (h : (check sslEnabled server config).code.isAnswer = true)
    : (query config).Fetches sslEnabled server Found :=
  fetches_of_concluded rfl (fun _ => rfl) (fun _ _ => found_of_guard rfl) h

end RabbitmqPlugin

namespace SolrPlugin

def query (config : Config) : Query where
  host := config.hostname
  port := config.port
  path := apiPath config
  timeout := config.timeoutSeconds

theorem fetches_of_check {config : Config}
    (h : (check sslEnabled server config).code.isAnswer = true)
    : (query config).Fetches sslEnabled server Found :=
  fetches_of_concluded rfl (fun _ => rfl) (fun _ _ => found_of_guard rfl) h

end SolrPlugin

namespace ElasticsearchPlugin

def query (config : Config) : Query where
  host := config.hostname
  port := config.port
  path := path
  timeout := config.timeoutSeconds
  username := config.username
  password := config.password

theorem fetches_of_check {config : Config}
    (h : (check sslEnabled server config).code.isAnswer = true)
    : (query config).Fetches sslEnabled server Found := by
  unfold check checkCluster at h
  split at h
  . contradiction
  rw [if_pos (show checkClusterHealth = true from rfl)] at h
  split at h
  . next result hresult =>
    split at hresult
    . contradiction
    . next statusCode response hfetch =>
      rw [← apply_ite Except.ok, Except.ok.injEq] at hresult
      rw [← hresult] at h
      exact ⟨statusCode, response, hfetch, found_of_guard rfl h⟩
  . contradiction

end ElasticsearchPlugin

namespace GrafanaPlugin

def query (sslEnabled : Bool) (config : Config) : Query where
  host := config.hostname
  port := config.port
  path := path
  useSSL := (config.withAvailableSsl sslEnabled).useSSL
  timeout := config.timeoutSeconds
  username := config.username
  password := if config.username ≠ [] then config.password else []

theorem fetch_eq (config : Config)
    : fetch sslEnabled server (config.withAvailableSsl sslEnabled)
        =
      (query sslEnabled config).fetch sslEnabled server := by
  have hkept : (config.withAvailableSsl sslEnabled).hostname = config.hostname
      ∧ (config.withAvailableSsl sslEnabled).port = config.port
      ∧ (config.withAvailableSsl sslEnabled).timeoutSeconds = config.timeoutSeconds
      ∧ (config.withAvailableSsl sslEnabled).username = config.username
      ∧ (config.withAvailableSsl sslEnabled).password = config.password := by
    unfold Config.withAvailableSsl
    split <;> simp
  obtain ⟨hhost, hport, htimeout, husername, hpassword⟩ := hkept
  unfold fetch Query.fetch query
  rw [hhost, hport, htimeout, husername, hpassword]
  dsimp only
  split
  . rfl
  . next hnil =>
    rw [ne_eq, not_not] at hnil
    rw [hnil]
    rfl

theorem fetches_of_check {config : Config}
    (h : (check sslEnabled server config).code.isAnswer = true)
    : (query sslEnabled config).Fetches sslEnabled server Found := by
  unfold check at h
  rw [fetch_eq] at h
  exact fetches_of_concluded rfl (fun _ => rfl) (fun _ _ => found_of_guard rfl) h

end GrafanaPlugin

/-- Any response with a body is accepted in the modes that these checks do not know, and in the
others the status codes of the mode. -/
def FoundIn (known accepted : Prop) (statusCode : Int) (body : Bytes) : Prop :=
  (known → accepted) ∧ statusCode ≠ 0 ∧ body ≠ []

theorem foundIn_of_guard {statusCode : Int} {body : Bytes} {bad other : PluginResult}
    {known accepted : Prop} (hbad : bad.code.isAnswer = false)
    (hother : other.code.isAnswer = true → known → accepted)
    (h : (if statusCode = 0 ∨ body = [] then bad else other).code.isAnswer = true)
    : FoundIn known accepted statusCode body := by
  obtain ⟨hguard, hanswer⟩ := isAnswer_ite hbad h
  rw [not_or] at hguard
  exact ⟨hother hanswer, hguard⟩

namespace CephPlugin

def query (config : Config) : Query where
  host := config.hostname
  port := config.port
  path := apiPath config.checkType
  timeout := config.timeoutSeconds
  username := config.username
  password := config.password

def Accepts (config : Config) (statusCode : Int) (body : Bytes) : Prop :=
  FoundIn
    (config.checkType = str "health" ∨ config.checkType = str "status"
      ∨ config.checkType = str "osd")
    (statusCode = 200 ∨ (config.checkType = str "health" ∧ statusCode = 401)) statusCode body

theorem fetches_of_check {config : Config}
    (h : (check sslEnabled server config).code.isAnswer = true)
    : (query config).Fetches sslEnabled server (Accepts config) := by
  refine fetches_of_concluded rfl (fun _ => rfl) ?_ h
  intro statusCode response
  apply foundIn_of_guard rfl
  intro hanswer hknown
  split at hanswer
  . next hhealth =>
    have hstatus := (isAnswer_ite_not rfl hanswer).1
    rcases hstatus with hstatus | hstatus
    . exact .inl hstatus
    . exact .inr ⟨hhealth, hstatus⟩
  . next hhealth =>
    rw [if_pos (hknown.resolve_left hhealth)] at hanswer
    left
    apply (isAnswer_ite_not _ hanswer).1
    split <;> rfl

end CephPlugin

namespace EtcdPlugin

def query (config : Config) : Query where
  host := config.hostname
  port := config.port
  path := apiPath config.checkType
  timeout := config.timeoutSeconds

def Accepts (config : Config) (statusCode : Int) (body : Bytes) : Prop :=
  FoundIn
    (config.checkType = str "health" ∨ config.checkType = str "version"
      ∨ config.checkType = str "members")
    (statusCode = 200) statusCode body

theorem fetches_of_check {config : Config}
    (h : (check sslEnabled server config).code.isAnswer = true)
    : (query config).Fetches sslEnabled server (Accepts config) := by
  refine fetches_of_concluded rfl (fun _ => rfl) ?_ h
  intro statusCode response
  apply foundIn_of_guard rfl
  intro hanswer hknown
  split at hanswer
  . exact (isAnswer_ite_not rfl hanswer).1
  . next hhealth =>
    split at hanswer
    . exact (isAnswer_ite_not rfl hanswer).1
    . next hversion =>
      rw [if_pos ((hknown.resolve_left hhealth).resolve_left hversion)] at hanswer
      exact (isAnswer_ite_not rfl hanswer).1

end EtcdPlugin

namespace InfluxdbPlugin

def query (config : Config) : Query where
  host := config.hostname
  port := config.port
  path := apiPath config.checkType
  timeout := config.timeoutSeconds
  username := config.username
  password := if config.username ≠ [] then config.password else []

theorem fetch_eq (config : Config)
    : fetch sslEnabled server config = (query config).fetch sslEnabled server := by
  unfold fetch Query.fetch query
  dsimp only
  split
  . rfl
  . next hnil =>
    rw [ne_eq, not_not] at hnil
    rw [hnil]
    rfl

def Accepts (config : Config) (statusCode : Int) (body : Bytes) : Prop :=
  FoundIn
    (config.checkType = str "ping" ∨ config.checkType = str "health"
      ∨ config.checkType = str "databases")
    (statusCode = 200 ∨ (config.checkType = str "ping" ∧ statusCode = 204)) statusCode body

theorem fetches_of_check {config : Config}
    (h : (check sslEnabled server config).code.isAnswer = true)
    : (query config).Fetches sslEnabled server (Accepts config) := by
  unfold check at h
  rw [fetch_eq] at h
  refine fetches_of_concluded rfl (fun _ => rfl) ?_ h
  intro statusCode response
  apply foundIn_of_guard rfl
  intro hanswer hknown
  split at hanswer
  . next hping =>
    rcases (isAnswer_ite_not rfl hanswer).1 with hstatus | hstatus
    . exact .inr ⟨hping, hstatus⟩
    . exact .inl hstatus
  . next hping =>
    left
    split at hanswer
    . exact (isAnswer_ite_not rfl hanswer).1
    . next hhealth =>
      rw [if_pos ((hknown.resolve_left hping).resolve_left hhealth)] at hanswer
      apply (isAnswer_ite_not _ hanswer).1
      split <;> rfl

end InfluxdbPlugin

namespace KubernetesPlugin

def query (sslEnabled : Bool) (config : Config) : Query where
  host := (config.withAvailableSsl sslEnabled).hostname
  port := (config.withAvailableSsl sslEnabled).port
  path := apiPath (config.withAvailableSsl sslEnabled).checkType
  useSSL := (config.withAvailableSsl sslEnabled).useSSL
  timeout := (config.withAvailableSsl sslEnabled).timeoutSeconds

def Accepts (config : Config) (statusCode : Int) (body : Bytes) : Prop :=
  FoundIn
    (config.checkType = str "health" ∨ config.checkType = str "nodes"
      ∨ config.checkType = str "pods")
    (statusCode = 200) statusCode body

theorem fetches_of_check {config : Config}
    (h : (check sslEnabled server config).code.isAnswer = true)
    : (query sslEnabled config).Fetches sslEnabled server (Accepts config) := by
  have hkept : (config.withAvailableSsl sslEnabled).checkType = config.checkType := by
    unfold Config.withAvailableSsl
    split <;> rfl
  refine fetches_of_concluded rfl (fun _ => rfl) ?_ h
  intro statusCode response
  apply foundIn_of_guard rfl
  intro hanswer hknown
  rw [hkept] at hanswer
  split at hanswer
  . exact (isAnswer_ite_not rfl hanswer).1.1
  . next hhealth =>
    rw [if_pos (hknown.resolve_left hhealth)] at hanswer
    apply (isAnswer_ite_not _ hanswer).1
    split <;> rfl

end KubernetesPlugin

namespace VaultPlugin

def query (config : Config) : Query where
  host := config.hostname
  port := config.port
  path := apiPath config.checkType
  timeout := config.timeoutSeconds

def Accepts (config : Config) (statusCode : Int) (body : Bytes) : Prop :=
  FoundIn True
    (statusCode = 200
      ∨ (config.checkType = str "health"
        ∧ (statusCode = 429 ∨ statusCode = 472 ∨ statusCode = 473)))
    statusCode body

theorem fetches_of_check {config : Config}
    (h : (check sslEnabled server config).code.isAnswer = true)
    : (query config).Fetches sslEnabled server (Accepts config) := by
  refine fetches_of_concluded rfl (fun _ => rfl) ?_ h
  intro statusCode response
  apply foundIn_of_guard rfl
  intro hanswer _
  split at hanswer
  . next hhealth =>
    unfold checkHealth at hanswer
    split at hanswer
    . next hstatus => exact .inl hstatus
    . right
      constructor
      . exact hhealth
      . apply (isAnswer_ite_not _ hanswer).1
        split <;> rfl
  . left
    split at hanswer
    . exact (isAnswer_ite_not rfl hanswer).1
    . exact (isAnswer_ite_not rfl hanswer).1

end VaultPlugin

end

section

variable {sslEnabled : Bool} {broker : Broker}

theorem connected_of_connectivity {name host accepting : Bytes} {port : Int} {attempt : Attempt}
    (h : (connectivity name host port accepting attempt).code.isAnswer = true)
    : attempt = .connected := by
  cases attempt with
  | connected => rfl
  | unresolved => contradiction
  | noSocket => contradiction
  | refused => contradiction

namespace KafkaPlugin

def query (config : Config) : Query where
  host := config.hostname
  port := config.httpPort
  path := apiPath config.checkType
  timeout := config.timeoutSeconds

theorem fetches_of_check {config : Config}
    (h : (check sslEnabled broker config).code.isAnswer = true)
    : (config.checkType = str "connectivity" ∧ broker.attempt = .connected)
        ∨
      (query config).Fetches sslEnabled broker.http fun statusCode _ => statusCode = 200 := by
  unfold check at h
  split at h
  . contradiction
  split at h
  . next htype => exact .inl ⟨htype, connected_of_connectivity h⟩
  split at h
  . contradiction
  . next statusCode response hfetch =>
    exact .inr ⟨statusCode, response, hfetch, (isAnswer_ite_not rfl h).1⟩

end KafkaPlugin

namespace CassandraPlugin

def query (config : Config) : Query where
  host := config.hostname
  port := config.jmxPort
  path := path
  timeout := config.timeoutSeconds

theorem fetches_of_check {config : Config}
    (h : (check sslEnabled broker config).code.isAnswer = true)
    : (config.checkType = str "connectivity" ∧ broker.attempt = .connected)
        ∨
      (query config).Fetches sslEnabled broker.http fun statusCode _ => statusCode = 200 := by
  unfold check at h
  split at h
  . contradiction
  split at h
  . next htype => exact .inl ⟨htype, connected_of_connectivity h⟩
  split at h
  . contradiction
  . next statusCode response hfetch =>
    exact .inr ⟨statusCode, response, hfetch, (isAnswer_ite_not rfl h).1⟩

end CassandraPlugin

namespace MongodbPlugin

def query (config : Config) : Query where
  host := config.hostname
  port := config.httpPort
  path := str "/"
  timeout := config.timeoutSeconds

theorem fetches_of_check {config : Config}
    (h : (check sslEnabled broker config).code.isAnswer = true)
    : (config.useHttpInterface = false ∧ broker.attempt = .connected)
        ∨
      (query config).Fetches sslEnabled broker.http Found := by
  unfold check at h
  split at h
  . contradiction
  split at h
  . split at h
    . contradiction
    . next statusCode response hfetch =>
      exact .inr ⟨statusCode, response, hfetch, found_of_guard rfl h⟩
  . next hhttp =>
    rw [Bool.not_eq_true] at hhttp
    exact .inl ⟨hhttp, connected_of_connectivity h⟩

end MongodbPlugin

end

/-- One configuration of a check that asks an HTTP API. -/
inductive ApiCheck where
  | activemq (config : ActivemqPlugin.Config)
  | apache (config : ApachePlugin.Config)
  | cassandra (config : CassandraPlugin.Config)
  | ceph (config : CephPlugin.Config)
  | consul (config : ConsulPlugin.Config)
  | couchbase (config : CouchbasePlugin.Config)
  | elasticsearch (config : ElasticsearchPlugin.Config)
  | etcd (config : EtcdPlugin.Config)
  | grafana (config : GrafanaPlugin.Config)
  | influxdb (config : InfluxdbPlugin.Config)
  | kafka (config : KafkaPlugin.Config)
  | kubernetes (config : KubernetesPlugin.Config)
  | mongodb (config : MongodbPlugin.Config)
  | nomad (config : NomadPlugin.Config)
  | phpfpm (config : PhpfpmPlugin.Config)
  | prometheus (config : PrometheusPlugin.Config)
  | rabbitmq (config : RabbitmqPlugin.Config)
  | solr (config : SolrPlugin.Config)
  | vault (config : VaultPlugin.Config)

namespace ApiCheck

def result (sslEnabled : Bool) (broker : Broker) : ApiCheck → PluginResult
  | activemq config => ActivemqPlugin.check sslEnabled broker.http config
  | apache config => ApachePlugin.check sslEnabled broker.http config
  | cassandra config => CassandraPlugin.check sslEnabled broker config
  | ceph config => CephPlugin.check sslEnabled broker.http config
  | consul config => ConsulPlugin.check sslEnabled broker.http config
  | couchbase config => CouchbasePlugin.check sslEnabled broker.http config
  | elasticsearch config => ElasticsearchPlugin.check sslEnabled broker.http config
  | etcd config => EtcdPlugin.check sslEnabled broker.http config
  | grafana config => GrafanaPlugin.check sslEnabled broker.http config
  | influxdb config => InfluxdbPlugin.check sslEnabled broker.http config
  | kafka config => KafkaPlugin.check sslEnabled broker config
  | kubernetes config => KubernetesPlugin.check sslEnabled broker.http config
  | mongodb config => MongodbPlugin.check sslEnabled broker config
  | nomad config => NomadPlugin.check sslEnabled broker.http config
  | phpfpm config => PhpfpmPlugin.check sslEnabled broker.http config
  | prometheus config => PrometheusPlugin.check sslEnabled broker.http config
  | rabbitmq config => RabbitmqPlugin.check sslEnabled broker.http config
  | solr config => SolrPlugin.check sslEnabled broker.http config
  | vault config => VaultPlugin.check sslEnabled broker.http config

def query (sslEnabled : Bool) : ApiCheck → Query
  | activemq config => ActivemqPlugin.query config
  | apache config => ApachePlugin.query sslEnabled config
  | cassandra config => CassandraPlugin.query config
  | ceph config => CephPlugin.query config
  | consul config => ConsulPlugin.query config
  | couchbase config => CouchbasePlugin.query config
  | elasticsearch config => ElasticsearchPlugin.query config
  | etcd config => EtcdPlugin.query config
  | grafana config => GrafanaPlugin.query sslEnabled config
  | influxdb config => InfluxdbPlugin.query config
  | kafka config => KafkaPlugin.query config
  | kubernetes config => KubernetesPlugin.query sslEnabled config
  | mongodb config => MongodbPlugin.query config
  | nomad config => NomadPlugin.query config
  | phpfpm config => PhpfpmPlugin.query sslEnabled config
  | prometheus config => PrometheusPlugin.query config
  | rabbitmq config => RabbitmqPlugin.query config
  | solr config => SolrPlugin.query config
  | vault config => VaultPlugin.query config

/-- The check has a mode where it connects and asks nothing, and is in it. -/
def OnlyConnects : ApiCheck → Prop
  | cassandra config => config.checkType = str "connectivity"
  | kafka config => config.checkType = str "connectivity"
  | mongodb config => config.useHttpInterface = false
  | _ => False

def Accepts : ApiCheck → Int → Bytes → Prop
  | ceph config => CephPlugin.Accepts config
  | etcd config => EtcdPlugin.Accepts config
  | influxdb config => InfluxdbPlugin.Accepts config
  | kubernetes config => KubernetesPlugin.Accepts config
  | vault config => VaultPlugin.Accepts config
  | cassandra _ => fun statusCode _ => statusCode = 200
  | kafka _ => fun statusCode _ => statusCode = 200
  | _ => Found

theorem ne_zero_of_accepts {check : ApiCheck} {statusCode : Int} {body : Bytes}
    (h : check.Accepts statusCode body)
    : statusCode ≠ 0 := by
  rintro rfl
  cases check with
  | activemq config => exact absurd h.1 (by decide)
  | apache config => exact absurd h.1 (by decide)
  | cassandra config => exact absurd (show (0 : Int) = 200 from h) (by decide)
  | ceph config => exact h.2.1 rfl
  | consul config => exact absurd h.1 (by decide)
  | couchbase config => exact absurd h.1 (by decide)
  | elasticsearch config => exact absurd h.1 (by decide)
  | etcd config => exact h.2.1 rfl
  | grafana config => exact absurd h.1 (by decide)
  | influxdb config => exact h.2.1 rfl
  | kafka config => exact absurd (show (0 : Int) = 200 from h) (by decide)
  | kubernetes config => exact h.2.1 rfl
  | mongodb config => exact absurd h.1 (by decide)
  | nomad config => exact absurd h.1 (by decide)
  | phpfpm config => exact absurd h.1 (by decide)
  | prometheus config => exact absurd h.1 (by decide)
  | rabbitmq config => exact absurd h.1 (by decide)
  | solr config => exact absurd h.1 (by decide)
  | vault config => exact h.2.1 rfl

theorem fetches_of_isAnswer (check : ApiCheck) (sslEnabled : Bool) (broker : Broker)
    (h : (check.result sslEnabled broker).code.isAnswer = true)
    : (check.OnlyConnects ∧ broker.attempt = .connected)
        ∨
      (check.query sslEnabled).Fetches sslEnabled broker.http check.Accepts := by
  cases check with
  | activemq config => exact .inr (ActivemqPlugin.fetches_of_check h)
  | apache config => exact .inr (ApachePlugin.fetches_of_check h)
  | cassandra config => exact CassandraPlugin.fetches_of_check h
  | ceph config => exact .inr (CephPlugin.fetches_of_check h)
  | consul config => exact .inr (ConsulPlugin.fetches_of_check h)
  | couchbase config => exact .inr (CouchbasePlugin.fetches_of_check h)
  | elasticsearch config => exact .inr (ElasticsearchPlugin.fetches_of_check h)
  | etcd config => exact .inr (EtcdPlugin.fetches_of_check h)
  | grafana config => exact .inr (GrafanaPlugin.fetches_of_check h)
  | influxdb config => exact .inr (InfluxdbPlugin.fetches_of_check h)
  | kafka config => exact KafkaPlugin.fetches_of_check h
  | kubernetes config => exact .inr (KubernetesPlugin.fetches_of_check h)
  | mongodb config => exact MongodbPlugin.fetches_of_check h
  | nomad config => exact .inr (NomadPlugin.fetches_of_check h)
  | phpfpm config => exact .inr (PhpfpmPlugin.fetches_of_check h)
  | prometheus config => exact .inr (PrometheusPlugin.fetches_of_check h)
  | rabbitmq config => exact .inr (RabbitmqPlugin.fetches_of_check h)
  | solr config => exact .inr (SolrPlugin.fetches_of_check h)
  | vault config => exact .inr (VaultPlugin.fetches_of_check h)

/-- Where a check is OK or WARNING, the server has answered its request with a status code that its
mode accepts and, but for `check_cassandra` and `check_kafka`, with a body, in whatever pieces the
response arrives; or the check is in its mode that asks nothing, and the port is open. -/
theorem answers_of_isAnswer (check : ApiCheck) (sslEnabled : Bool) (broker : Broker)
    (h : (check.result sslEnabled broker).code.isAnswer = true)
    : (check.OnlyConnects ∧ broker.attempt = .connected)
        ∨
      ∃ statusCode body,
        (check.query sslEnabled).Answers sslEnabled broker.http statusCode body
          ∧ check.Accepts statusCode body := by
  rcases check.fetches_of_isAnswer sslEnabled broker h with hconnects | hfetches
  . exact .inl hconnects
  . obtain ⟨statusCode, body, hfetch, haccepts⟩ := hfetches
    right
    exact ⟨statusCode, body, Query.answers_of_fetch hfetch (ne_zero_of_accepts haccepts), haccepts⟩

def solrPing : Broker where
  attempt := .refused
  http _ _ := .stream
    (segment 8191 (Nat.succ_pos 8190) (str "HTTP/1.1 200 OK\r\n\r\n\x7b\"status\":\"OK\"\x7d"))

theorem answers_of_solrPing
    : ((solr { hostname := str "search" }).result false solrPing).code = .ok
        ∧
      (((solr { hostname := str "search" }).OnlyConnects ∧ solrPing.attempt = .connected)
        ∨
      ∃ statusCode body,
        ((solr { hostname := str "search" }).query false).Answers false solrPing.http statusCode body
          ∧ (solr { hostname := str "search" }).Accepts statusCode body) := by
  have hcode : ((solr { hostname := str "search" }).result false solrPing).code = .ok := by
    decide +kernel
  refine ⟨hcode, answers_of_isAnswer _ false solrPing ?_⟩
  rw [hcode]
  rfl

end ApiCheck
end NetmonPlugins

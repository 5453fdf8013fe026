import NetmonPlugins.Plugins.Docker.Impl
import NetmonPlugins.Plugins.Http.Impl
import NetmonPlugins.Rfc.Http

/-!
This module determines when `check_http` and `check_docker` report OK on a response that arrives in
one segment, and compares that with the status line of the response.
-/

namespace NetmonPlugins

namespace HttpPlugin

def answering (response : Bytes) : Server := fun _ _ => .stream (segment 4095 (by decide) response)

theorem readResponse_segment_iff (response : Bytes)
    : readResponse [] (.stream (segment 4095 (by decide) response)) = true
        ↔
      str "HTTP/1" <:+: cstr (response.take 4095) ∧ str "200" <:+: cstr (response.take 4095) := by
  rw [← contains_iff_isInfix, ← contains_iff_isInfix]
  unfold segment
  split
  . next hresponse =>
    rw [hresponse]
    decide
  . simp [readResponse]

theorem checkHttp_answering (sslEnabled : Bool) (response host : Bytes) (portNum : Int)
    (path : Bytes) (ssl : Bool) (expectString : Bytes)
    : checkHttp sslEnabled (answering response) host portNum path ssl expectString
        =
      readResponse expectString (.stream (segment 4095 (by decide) response)) := by
  unfold checkHttp
  split
  . rfl
  . rfl

theorem check_answering_eq_ok_iff (sslEnabled : Bool) (response : Bytes) (config : Config)
    (hexpect : config.expectString = [])
    : (check sslEnabled (answering response) config).code = .ok
        ↔
      config.hostname ≠ []
        ∧
      str "HTTP/1" <:+: cstr (response.take 4095) ∧ str "200" <:+: cstr (response.take 4095) := by
  rw [← readResponse_segment_iff]
  unfold check
  split
  . next hhost => simp [hhost]
  . next hhost =>
    simp only [checkHttp_answering, hexpect]
    split
    . next hread => simp [hhost, hread]
    . next hread => simp [hhost, hread]

end HttpPlugin

namespace DockerPlugin

def answering (isSocket : Bytes → Bool) (response : Bytes) : Daemon where
  isSocket := isSocket
  socket _ _ := .stream (segment 8191 (by decide) response)
  tcp _ _ := .stream (segment 8191 (by decide) response)

def bodyOf (sslEnabled : Bool) (config : Config) (fullResponse : Bytes)
    : Except StdException Bytes :=
  if config.useSocket then
    .ok (parseSocket fullResponse)
  else if sslEnabled && config.useTLS then
    (httpGetAuth.parseTls fullResponse).map (·.2)
  else
    .ok (httpGetAuth.parsePlain fullResponse).2

theorem httpGet_answering (sslEnabled : Bool) (isSocket : Bytes → Bool) (response host : Bytes)
    (port : Int) (path : Bytes) (useSSL : Bool) (timeout : Int)
    : httpGet sslEnabled (answering isSocket response).tcp host port path useSSL timeout
        =
      if sslEnabled && useSSL then
        httpGetAuth.parseTls (recvLoop (segment 8191 (by decide) response) [])
      else
        .ok (httpGetAuth.parsePlain (recvLoop (segment 8191 (by decide) response) [])) := by
  rfl

theorem dockerApiRequest_answering (sslEnabled : Bool) (isSocket : Bytes → Bool) (response : Bytes)
    (config : Config) (path : Bytes)
    : dockerApiRequest sslEnabled (answering isSocket response) config path
        =
      bodyOf sslEnabled config (recvLoop (segment 8191 (by decide) response) []) := by
  unfold dockerApiRequest bodyOf
  rw [httpGet_answering]
  split
  . rfl
  . cases sslEnabled && config.useTLS with
    | false => rfl
    | true =>
      cases httpGetAuth.parseTls (recvLoop (segment 8191 (by decide) response) []) with
      | ok result => rfl
      | error e => rfl

def HasTarget (isSocket : Bytes → Bool) (config : Config) : Prop :=
  if config.useSocket then isSocket config.socketPath = true else config.hostname ≠ []

theorem hasTarget_iff (daemon : Daemon) (config : Config)
    : HasTarget daemon.isSocket config
        ↔
      ¬ (config.useSocket && !daemon.isSocket config.socketPath) = true
        ∧
      ¬ (!config.useSocket && config.hostname = []) = true := by
  unfold HasTarget
  cases config.useSocket with
  | true => simp
  | false => simp

theorem hasTarget_of_check_eq_ok (sslEnabled : Bool) (daemon : Daemon) (config : Config)
    (h : (check sslEnabled daemon config).code = .ok)
    : HasTarget daemon.isSocket config := by
  rw [hasTarget_iff]
  unfold check at h
  split at h
  . contradiction
  . next hsocket =>
    split at h
    . contradiction
    . next htcp => exact ⟨hsocket, htcp⟩

theorem check_eq_ok_iff_of_hasTarget (sslEnabled : Bool) (daemon : Daemon) (config : Config)
    (htarget : HasTarget daemon.isSocket config) (hcontainer : config.containerName = [])
    : (check sslEnabled daemon config).code = .ok
        ↔
      ∃ body,
        dockerApiRequest sslEnabled daemon config (str "/_ping") = .ok body
          ∧
        str "OK" <:+: body := by
  rw [hasTarget_iff] at htarget
  unfold check
  rw [if_neg htarget.1, if_neg htarget.2]
  cases dockerApiRequest sslEnabled daemon config (str "/_ping") with
  | error e => simp [failed]
  | ok body =>
    simp only [Except.ok.injEq, exists_eq_left', ← contains_iff_isInfix]
    split
    . next hbad =>
      simp only [reduceCtorEq, false_iff]
      intro hcontains
      rw [hcontains] at hbad
      simp only [Bool.not_true, Bool.or_false, decide_eq_true_eq] at hbad
      rw [hbad] at hcontains
      contradiction
    . next hgood =>
      simp only [Bool.or_eq_true, decide_eq_true_eq, Bool.not_eq_true', not_or,
        Bool.not_eq_false] at hgood
      rw [if_neg (by simp [hcontainer])]
      simp [hgood.2]

theorem check_answering_eq_ok_iff (sslEnabled : Bool) (isSocket : Bytes → Bool) (response : Bytes)
    (config : Config) (hcontainer : config.containerName = [])
    : (check sslEnabled (answering isSocket response) config).code = .ok
        ↔
      HasTarget isSocket config
        ∧
      ∃ body,
        bodyOf sslEnabled config (recvLoop (segment 8191 (by decide) response) []) = .ok body
          ∧
        str "OK" <:+: body := by
  rw [← dockerApiRequest_answering sslEnabled isSocket response config (str "/_ping")]
  constructor
  . intro hok
    have htarget := hasTarget_of_check_eq_ok _ _ _ hok
    rw [check_eq_ok_iff_of_hasTarget _ _ _ htarget hcontainer] at hok
    exact ⟨htarget, hok⟩
  . intro ⟨htarget, hbody⟩
    rw [check_eq_ok_iff_of_hasTarget _ (answering isSocket response) _ htarget hcontainer]
    exact hbody

end DockerPlugin

theorem ok_imp_status_200_iff (sslEnabled : Bool) (response : Bytes)
    (http : HttpPlugin.Config) (isSocket : Bytes → Bool) (docker : DockerPlugin.Config)
    (hexpect : http.expectString = []) (hcontainer : docker.containerName = [])
    : (((HttpPlugin.check sslEnabled (HttpPlugin.answering response) http).code = .ok
          → Http.statusCodeOf response = some 200)
        ↔
      (Http.statusCodeOf response = some 200 ∨ http.hostname = []
        ∨ ¬ str "HTTP/1" <:+: cstr (response.take 4095)
        ∨ ¬ str "200" <:+: cstr (response.take 4095)))
        ∧
      (((DockerPlugin.check sslEnabled (DockerPlugin.answering isSocket response) docker).code = .ok
          → Http.statusCodeOf response = some 200)
        ↔
      (Http.statusCodeOf response = some 200 ∨ ¬ DockerPlugin.HasTarget isSocket docker
        ∨ ∀ body,
          DockerPlugin.bodyOf sslEnabled docker (recvLoop (segment 8191 (by decide) response) [])
              = .ok body
            → ¬ str "OK" <:+: body)) := by
  rw [HttpPlugin.check_answering_eq_ok_iff _ _ _ hexpect]
  rw [DockerPlugin.check_answering_eq_ok_iff _ _ _ _ hcontainer]
  constructor
  . tauto
  . constructor
    . intro h
      by_cases hstatus : Http.statusCodeOf response = some 200
      . simp [hstatus]
      . right
        by_cases htarget : DockerPlugin.HasTarget isSocket docker
        . right
          intro body hbody hok
          exact hstatus (h ⟨htarget, body, hbody, hok⟩)
        . simp [htarget]
    . intro h ⟨htarget, body, hbody, hok⟩
      cases h with
      | inl hstatus => exact hstatus
      | inr h =>
        cases h with
        | inl h => exact absurd htarget h
        | inr h => exact absurd hok (h body hbody)

def unavailable : Bytes :=
  str "HTTP/1.1 503 Service Unavailable\r\nContent-Length: 200\r\n\r\nLOOKUP FAILED"

theorem ok_of_unavailable
    : Http.statusCodeOf unavailable = some 503
        ∧
      (HttpPlugin.check true (HttpPlugin.answering unavailable) { hostname := str "www" }).code
        = .ok
        ∧
      (DockerPlugin.check true (DockerPlugin.answering (fun _ => true) unavailable) {}).code
        = .ok := by
  refine ⟨by decide, ?_, ?_⟩
  . rw [HttpPlugin.check_answering_eq_ok_iff _ _ _ rfl]
    simp only [← contains_iff_isInfix]
    decide
  . rw [DockerPlugin.check_answering_eq_ok_iff _ _ _ _ rfl]
    refine ⟨rfl, _, rfl, ?_⟩
    rw [recvLoop_segment _ _ _ (by decide), ← contains_iff_isInfix]
    decide

theorem ok_imp_status_200_of_notFound
    : (HttpPlugin.check true (HttpPlugin.answering (str "HTTP/1.1 404 Not Found\r\n\r\n"))
        { hostname := str "www" }).code ≠ .ok := by
  have h := ok_imp_status_200_iff true (str "HTTP/1.1 404 Not Found\r\n\r\n")
    { hostname := str "www" } (fun _ => true) {} rfl rfl
  intro hok
  have hstatus : Http.statusCodeOf (str "HTTP/1.1 404 Not Found\r\n\r\n") = some 200 := by
    apply h.1.mpr
    . simp only [← contains_iff_isInfix]
      decide
    . exact hok
  contradiction

end NetmonPlugins

import NetmonPlugins.Common.HttpApi.Request
import NetmonPlugins.Net.Replay
import NetmonPlugins.Plugins.Elasticsearch.Impl
import NetmonPlugins.Plugins.Imap.Impl
import NetmonPlugins.Plugins.Pop.Impl

/-!
This module determines in which runs `check_imap`, `check_pop` and `check_elasticsearch` keep the
password off the wire when they are called with `-S`.
-/

namespace NetmonPlugins

open Dialogue

/-- The password is in the message, or in what base64 makes of a part of it. -/
def Reveals (password message : Bytes) : Prop :=
  password <:+: message
    ∨ ∃ token text, token <:+: message ∧ Base64.decode token = some text ∧ password <:+: text

def Disclosed (password : Bytes) (clear : List Bytes) : Prop :=
  ∃ message ∈ clear, Reveals password message

def Answers (responses : List Bytes) (n : Nat) (text : Bytes) : Prop :=
  ∃ response, responses[n]? = some response ∧ contains response text = true

theorem not_disclosed_nil (password : Bytes) : ¬ Disclosed password [] := by
  rintro ⟨message, hmessage, _⟩
  contradiction

theorem disclosed_cons_iff (password message : Bytes) (clear : List Bytes)
    : Disclosed password (message :: clear)
        ↔
      Reveals password message ∨ Disclosed password clear := by
  simp [Disclosed]

theorem reveals_of_append (password before after : Bytes)
    : Reveals password (before ++ password ++ after) :=
  .inl (List.infix_append before password after)

/-- The message is sent after a response that contains the text, and the rest follows it. -/
def sendAfter (text message : Bytes) (rest : Dialogue Bool) : Dialogue Bool :=
  .read 1023 (fun _ => true) [] fun response =>
    if contains response text then
      .send message fun ok => if ok then rest else .done false
    else
      .done false

theorem sent_sendAfter (text message : Bytes) (rest : Dialogue Bool) (fates : List Bool)
    (responses : List Bytes)
    : (Answers responses 0 text ∧ fates[0]? = some true
        ∧ (sendAfter text message rest).sent fates responses
          = message :: rest.sent fates.tail responses.tail)
        ∨
      (¬ (Answers responses 0 text ∧ fates[0]? = some true)
        ∧ (sendAfter text message rest).sent fates responses = []) := by
  unfold Answers
  cases responses with
  | nil => simp [sendAfter, sent]
  | cons response responses =>
    by_cases hcontains : contains response text = true
    . cases fates with
      | nil => simp [sendAfter, sent, hcontains]
      | cons ok fates =>
        cases ok with
        | true => simp [sendAfter, sent, hcontains]
        | false => simp [sendAfter, sent, hcontains]
    . simp [sendAfter, sent, hcontains]

theorem disclosed_sendAfter_iff (password text message : Bytes) (rest : Dialogue Bool)
    (fates : List Bool) (responses : List Bytes)
    : Disclosed password ((sendAfter text message rest).sent fates responses)
        ↔
      Answers responses 0 text ∧ fates[0]? = some true
        ∧ (Reveals password message ∨ Disclosed password (rest.sent fates.tail responses.tail)) := by
  cases sent_sendAfter text message rest fates responses with
  | inl h =>
    obtain ⟨hanswers, hfate, hsent⟩ := h
    rw [hsent, disclosed_cons_iff]
    simp [hanswers, hfate]
  | inr h =>
    rw [h.2]
    apply iff_of_false (not_disclosed_nil password)
    rintro ⟨hanswers, hfate, _⟩
    exact h.1 ⟨hanswers, hfate⟩

theorem disclosed_checkService_iff (check : Bool → Dialogue Bool)
    {service hostname password : Bytes} {port : Int} {connected : Bool} {peer : Peer}
    {ok : State PluginResult → Action → Prop} {s : State PluginResult}
    (hcheck : check false = .done false)
    (h : Reaches (step peer) ok
      (start peer (checkService service hostname port (check connected))) s)
    : Disclosed password s.heard
        ↔
      hostname ≠ [] ∧ connected = true
        ∧ Disclosed password ((check true).sent s.fates s.responses) := by
  rw [heard_of_reaches h]
  unfold checkService
  by_cases hhost : hostname = []
  . rw [if_pos hhost]
    exact iff_of_false (not_disclosed_nil _) fun h => h.1 hhost
  . rw [if_neg hhost]
    show Disclosed password ((check connected >>= fun available =>
      .done (availability service hostname port _ available)).sent _ _) ↔ _
    rw [sent_map]
    cases connected with
    | true => simp [hhost]
    | false =>
      rw [hcheck]
      exact iff_of_false (not_disclosed_nil _) fun h => absurd h.2.1 (by decide)

/-- A text that is found is not empty, so the test for an empty response adds nothing. -/
theorem sendAfter_eq {text : Bytes} (htext : text ≠ []) (message : Bytes) (rest : Dialogue Bool)
    : sendAfter text message rest
        =
      .read 1023 (fun _ => true) [] fun response =>
        if decide (response = []) || !contains response text then
          .done false
        else
          .send message fun ok => if !ok then .done false else rest := by
  unfold sendAfter
  congr 1
  funext response
  by_cases hcontains : contains response text = true
  . have hne : response ≠ [] := by
      intro hnil
      rw [contains_iff_isInfix, hnil, List.infix_nil] at hcontains
      exact htext hcontains
    rw [if_pos hcontains, if_neg (by simp [hcontains, hne])]
    congr 1
    funext ok
    cases ok with
    | true => rfl
    | false => rfl
  . rw [if_neg hcontains, if_pos (by simp [hcontains])]

namespace ImapPlugin

def loginAnswer : Dialogue Bool := do
  let response ← readResponse
  if response = [] || !contains response (str "A1 OK") then
    return false
  let _ ← sendCommand (str "A2 LOGOUT")
  let _ ← readResponse
  return true

def login (user pass : Bytes) : Bytes := str "A1 LOGIN " ++ user ++ str " " ++ pass ++ crlf

theorem checkImap_eq {user pass : Bytes} (huser : user ≠ []) (hpass : pass ≠ [])
    : checkImap true user pass = sendAfter (str "* OK") (login user pass) loginAnswer := by
  rw [sendAfter_eq (by decide)]
  unfold checkImap login loginAnswer readResponse sendCommand
  simp only [Bool.not_true, Bool.false_eq_true, ↓reduceIte, read_bind, send_bind, done_bind,
    pure_eq_done, ne_eq, huser, hpass, not_false_eq_true, and_self]

/-- There is a connection and a greeting, and the first command can be sent. -/
def Proceeds (connected : Bool) (config : Config) (s : State PluginResult) : Prop :=
  config.hostname ≠ [] ∧ connected = true
    ∧ Answers s.responses 0 (str "* OK") ∧ s.fates[0]? = some true

theorem disclosed_iff {sslEnabled connected : Bool} {config : Config} {peer : Peer}
    {ok : State PluginResult → Action → Prop} {s : State PluginResult}
    (huser : config.username ≠ []) (hpass : config.password ≠ [])
    (h : Reaches (step peer) ok (start peer (check sslEnabled connected config)) s)
    : Disclosed config.password s.heard ↔ Proceeds connected config s := by
  have hreveals : Reveals config.password (login config.username config.password) := by
    apply reveals_of_append
  unfold check at h
  rw [disclosed_checkService_iff (checkImap · config.username config.password) rfl h,
    checkImap_eq huser hpass, disclosed_sendAfter_iff]
  simp [Proceeds, hreveals]

end ImapPlugin

namespace PopPlugin

def passAnswer : Dialogue Bool := do
  let response ← readResponse
  if response = [] || !isPositive response then
    return false
  let _ ← sendCommand (str "QUIT")
  let _ ← readResponse
  return true

def userLine (user : Bytes) : Bytes := str "USER " ++ user ++ crlf

def passLine (pass : Bytes) : Bytes := str "PASS " ++ pass ++ crlf

theorem checkPop_eq {user pass : Bytes} (huser : user ≠ []) (hpass : pass ≠ [])
    : checkPop true user pass
        =
      sendAfter (str "+OK") (userLine user)
        (sendAfter (str "+OK") (passLine pass) passAnswer) := by
  rw [sendAfter_eq (by decide), sendAfter_eq (by decide)]
  unfold checkPop userLine passLine passAnswer isPositive readResponse sendCommand
  simp only [Bool.not_true, Bool.false_eq_true, ↓reduceIte, read_bind, send_bind, done_bind,
    pure_eq_done, ne_eq, huser, hpass, not_false_eq_true]

/--
There is a connection and a greeting, and the name can be sent; it gives the password away, or it is
accepted and the second command can be sent.
-/
def Proceeds (connected : Bool) (config : Config) (s : State PluginResult) : Prop :=
  config.hostname ≠ [] ∧ connected = true
    ∧ Answers s.responses 0 (str "+OK") ∧ s.fates[0]? = some true
    ∧ (Reveals config.password (userLine config.username)
      ∨ Answers s.responses 1 (str "+OK") ∧ s.fates[1]? = some true)

theorem answers_tail_iff (responses : List Bytes) (text : Bytes)
    : Answers responses.tail 0 text ↔ Answers responses 1 text := by
  unfold Answers
  rw [List.getElem?_tail]

theorem disclosed_iff {sslEnabled connected : Bool} {config : Config} {peer : Peer}
    {ok : State PluginResult → Action → Prop} {s : State PluginResult}
    (huser : config.username ≠ []) (hpass : config.password ≠ [])
    (h : Reaches (step peer) ok (start peer (check sslEnabled connected config)) s)
    : Disclosed config.password s.heard ↔ Proceeds connected config s := by
  have hreveals : Reveals config.password (passLine config.password) := by
    apply reveals_of_append
  unfold check at h
  rw [disclosed_checkService_iff (checkPop · config.username config.password) rfl h,
    checkPop_eq huser hpass, disclosed_sendAfter_iff, disclosed_sendAfter_iff, answers_tail_iff,
    List.getElem?_tail]
  simp [Proceeds, hreveals]

end PopPlugin

namespace ElasticsearchPlugin

def request (config : Config) : Bytes :=
  httpGetAuth.request config.hostname config.port path config.username config.password

/-- `check_elasticsearch` writes nothing but the request of `checkCluster`. -/
def clearText (sslEnabled : Bool) (server : Server) (config : Config) : List Bytes :=
  if config.hostname = [] then
    []
  else
    httpGetAuth.clearText sslEnabled server config.hostname config.port path false config.username
      config.password

theorem reveals_request {config : Config} (huser : config.username ≠ [])
    : Reveals config.password (request config) := by
  obtain ⟨head, hrequest⟩ := httpGetAuth.request_eq_append_basicToken config.hostname config.port
    path config.username config.password huser
  unfold request
  rw [hrequest]
  right
  refine ⟨_, _, ?_, httpGetAuth.decode_basicToken config.username config.password huser, ?_⟩
  . rw [List.append_assoc _ crlf crlf]
    apply List.infix_append
  . apply List.infix_append

theorem disclosed_iff {sslEnabled : Bool} {server : Server} {config : Config}
    (huser : config.username ≠ [])
    : Disclosed config.password (clearText sslEnabled server config)
        ↔
      config.hostname ≠ [] ∧ server false (request config) ≠ .failed := by
  unfold clearText httpGetAuth.clearText
  rw [Bool.and_false]
  by_cases hhost : config.hostname = []
  . rw [if_pos hhost]
    exact iff_of_false (not_disclosed_nil _) fun h => h.1 hhost
  . rw [if_neg hhost]
    dsimp only
    rw [if_neg Bool.false_ne_true]
    split
    . next hfailed => exact iff_of_false (not_disclosed_nil _) fun h => h.2 hfailed
    . next hstream =>
      rw [disclosed_cons_iff]
      refine iff_of_true (.inl (reveals_request huser)) ⟨hhost, ?_⟩
      unfold request
      rw [hstream]
      simp

end ElasticsearchPlugin

/--
Called with `-S`, the checks keep the password off the wire in exactly the runs in which they do not
come as far as the command, or the request, that carries it.
-/
theorem not_disclosed_iff (args : List Bytes) (sslEnabled : Bool) (_hssl : str "-S" ∈ args)
    : (∀ config connected peer s, ImapPlugin.parseArguments args = .ok config
        → config.username ≠ [] → config.password ≠ []
        → Reaches (step peer) (fun _ _ => True)
            (start peer (ImapPlugin.check sslEnabled connected config)) s
        → (¬ Disclosed config.password s.heard ↔ ¬ ImapPlugin.Proceeds connected config s))
        ∧
      (∀ config connected peer s, PopPlugin.parseArguments args = .ok config
        → config.username ≠ [] → config.password ≠ []
        → Reaches (step peer) (fun _ _ => True)
            (start peer (PopPlugin.check sslEnabled connected config)) s
        → (¬ Disclosed config.password s.heard ↔ ¬ PopPlugin.Proceeds connected config s))
        ∧
      (∀ config server, ElasticsearchPlugin.parseArguments args = .ok config
        → config.username ≠ [] → config.password ≠ []
        → (¬ Disclosed config.password (ElasticsearchPlugin.clearText sslEnabled server config)
            ↔
          config.hostname = [] ∨ server false (ElasticsearchPlugin.request config) = .failed)) := by
  refine ⟨?_, ?_, ?_⟩
  . intro config connected peer s _ huser hpass hreach
    rw [ImapPlugin.disclosed_iff huser hpass hreach]
  . intro config connected peer s _ huser hpass hreach
    rw [PopPlugin.disclosed_iff huser hpass hreach]
  . intro config server _ huser _
    rw [ElasticsearchPlugin.disclosed_iff huser, not_and_or, not_not, not_not]

def credentials : List Bytes :=
  [str "-H", str "mx", str "-S", str "-u", str "bob", str "-P", str "secret"]

def greeter (greeting : Bytes) : Peer := fun heard => if heard = [] then greeting else str "+OK\r\n"

def imaps : ImapPlugin.Config :=
  { hostname := str "mx", port := 993, username := str "bob", password := str "secret",
    useSSL := true }

theorem not_disclosed_of_bye
    : ∃ s, exec (step (greeter (str "* BYE\r\n")))
          (start (greeter (str "* BYE\r\n")) (ImapPlugin.check true true imaps)) [.deliver 7]
        = some s
      ∧ ¬ Disclosed imaps.password s.heard := by
  refine ⟨_, rfl, ?_⟩
  apply ((not_disclosed_iff credentials true (by decide)).1 imaps true
    (greeter (str "* BYE\r\n")) _ rfl (by decide) (by decide)
    (.of_exec [.deliver 7] (fun _ _ => trivial) .refl rfl)).mpr
  rintro ⟨_, _, ⟨greeting, hgreeting, hok⟩, _⟩
  change some (str "* BYE\r\n") = some greeting at hgreeting
  rw [Option.some.injEq] at hgreeting
  rw [← hgreeting] at hok
  revert hok
  decide

def refusing : Server := fun _ _ =>
  .stream [{
    data := str "HTTP/1.1 401 Unauthorized\r\n\r\n"
    ne_nil := by decide
    length_le := by decide }]

/-- `-S` is accepted, changes the port of the mail checks, and the password goes out all the same. -/
theorem disclosed_of_ssl
    : (∃ config s, ImapPlugin.parseArguments credentials = .ok config
          ∧ exec (step (greeter (str "* OK\r\n")))
              (start (greeter (str "* OK\r\n")) (ImapPlugin.check true true config))
              [.deliver 6, .send true] = some s
          ∧ s.heard = [str "A1 LOGIN bob secret\r\n"] ∧ Disclosed config.password s.heard)
        ∧
      (∃ config s, PopPlugin.parseArguments credentials = .ok config
          ∧ exec (step (greeter (str "+OK\r\n")))
              (start (greeter (str "+OK\r\n")) (PopPlugin.check true true config))
              [.deliver 5, .send true, .deliver 5, .send true] = some s
          ∧ s.heard = [str "USER bob\r\n", str "PASS secret\r\n"]
          ∧ Disclosed config.password s.heard)
        ∧
      (∃ config, ElasticsearchPlugin.parseArguments credentials = .ok config
          ∧ ElasticsearchPlugin.clearText true refusing config
              = [ElasticsearchPlugin.request config]
          ∧ Disclosed config.password (ElasticsearchPlugin.clearText true refusing config)) := by
  refine ⟨?_, ?_, ?_⟩
  . refine ⟨_, _, rfl, rfl, by decide, str "A1 LOGIN bob secret\r\n", ?_, .inl ?_⟩
    . exact List.mem_singleton_self _
    . exact ⟨str "A1 LOGIN bob ", crlf, by decide⟩
  . refine ⟨_, _, rfl, rfl, by decide, str "PASS secret\r\n", ?_, .inl ?_⟩
    . exact List.mem_of_mem_getLast? rfl
    . exact ⟨str "PASS ", crlf, by decide⟩
  . refine ⟨_, rfl, rfl, ?_⟩
    exact (ElasticsearchPlugin.disclosed_iff (by decide)).mpr ⟨by decide, by simp [refusing]⟩

end NetmonPlugins

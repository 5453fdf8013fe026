import NetmonPlugins.Net.Script
import NetmonPlugins.Plugins.Ftp.Impl
import NetmonPlugins.Plugins.Jabber.Impl
import NetmonPlugins.Plugins.LineChecks.Verdict
import NetmonPlugins.Plugins.Redis.Impl
import NetmonPlugins.Plugins.Smtp.Impl
import NetmonPlugins.Plugins.Ssh.Impl
import NetmonPlugins.Plugins.Telnet.Impl

/-!
This module contains the scripts of the checks that speak with a server, and how each check keeps to
its scripts.
-/

namespace NetmonPlugins

open Dialogue

inductive Conversation where
  | pop (sslEnabled connected : Bool) (config : PopPlugin.Config)
  | imap (sslEnabled connected : Bool) (config : ImapPlugin.Config)
  | nntp (connected : Bool) (config : NntpPlugin.Config)
  | ftp (connected : Bool) (config : FtpPlugin.Config)
  | ircd (connected : Bool) (config : IrcdPlugin.Config)
  | jabber (connected : Bool) (config : JabberPlugin.Config)
  | smtp (connected : Bool) (config : SmtpPlugin.Config)
  | ssh (connected : Bool) (config : SshPlugin.Config)
  | telnet (connected : Bool) (config : TelnetPlugin.Config)
  | redis (connected : Bool) (config : RedisPlugin.Config)

namespace Conversation

def client : Conversation → Dialogue PluginResult
  | pop sslEnabled connected config => PopPlugin.check sslEnabled connected config
  | imap sslEnabled connected config => ImapPlugin.check sslEnabled connected config
  | nntp connected config => NntpPlugin.check connected config
  | ftp connected config => FtpPlugin.check connected config
  | ircd connected config => IrcdPlugin.check connected config
  | jabber connected config => JabberPlugin.check connected config
  | smtp connected config => SmtpPlugin.check connected config
  | ssh connected config => SshPlugin.check connected config
  | telnet connected config => TelnetPlugin.check connected config
  | redis connected config => RedisPlugin.check connected config

def line (command : Bytes) : Event := .say (command ++ crlf)

/-- Behind this the service is not reported as available. -/
def failure : Event := .hear fun _ => false

def popScript (user pass : Bytes) : Script :=
  .hear PopPlugin.isPositive :: if user ≠ [] then
      line (str "USER " ++ user) :: .hear PopPlugin.isPositive :: if pass ≠ [] then
          [line (str "PASS " ++ pass), .hear PopPlugin.isPositive, line (str "QUIT")]
        else
          []
    else
      []

def imapScript (user pass : Bytes) : Script :=
  .hear (contains · (str "* OK")) :: if user ≠ [] ∧ pass ≠ [] then
      [line (str "A1 LOGIN " ++ user ++ str " " ++ pass), .hear (contains · (str "A1 OK")),
        line (str "A2 LOGOUT")]
    else
      []

def nntpScript (user pass : Bytes) : Script :=
  .hear NntpPlugin.isGreeting :: if user ≠ [] ∧ pass ≠ [] then
      [line (str "AUTHINFO USER " ++ user), .hear (startsWith · '3'),
        line (str "AUTHINFO PASS " ++ pass), .hear (startsWith · '2'), line (str "QUIT")]
    else
      [line (str "QUIT")]

def ftpScripts (user pass : Bytes) (anon : Bool) : List Script :=
  let userLine := line (str "USER " ++ FtpPlugin.loginUser user anon)
  let passLine := line (str "PASS " ++ FtpPlugin.loginPass pass anon)
  [[.hear (startsWith · '2'), userLine, .hear (startsWith · '3'), passLine,
      .hear (startsWith · '2'), line (str "QUIT")],
    -- A server that needs no password.
    [.hear (startsWith · '2'), userLine, .hear (startsWith · '2'), line (str "QUIT")]]

def ircdScripts (nick : Bytes) : List Script :=
  let nickLine := line (str "NICK " ++ nick)
  let userLine := line (str "USER " ++ nick ++ str " 0 * :Monitoring Bot")
  [[.hear (· ≠ []), nickLine, userLine, .hear IrcdPlugin.isWelcome, line (str "QUIT")],
    [.hear (· ≠ []), nickLine, userLine, .hear (fun _ => true), line (str "QUIT"), failure]]

def jabberScripts (hostname : Bytes) : List Script :=
  let header := Event.say (JabberPlugin.streamHeader hostname)
  let footer := Event.say (str "</stream:stream>")
  [[.hear JabberPlugin.isStream, header, .hear JabberPlugin.isFeatures, footer],
    [.hear JabberPlugin.isStream, header, .hear (fun _ => true), footer, failure]]

def smtpScript (expectString : Bytes) : Script := [.hear (contains · expectString)]

def sshScript : Script := [.hear (contains · (str "SSH"))]

def telnetScript (send expect : Bytes) : Script :=
  if send ≠ [] then
    [.hear (fun _ => true), line send, .hear (TelnetPlugin.isExpected expect)]
  else
    [.hear (TelnetPlugin.isExpected expect)]

def redisScript (password : Bytes) : Script :=
  let ping : Script :=
    [.say (RedisPlugin.commandBytes (str "PING")), .hear RedisPlugin.ponged,
      .say (RedisPlugin.commandBytes (str "INFO")),
      .hear fun response => (RedisPlugin.infoResult response).code = .ok]
  if password ≠ [] then
    .say (RedisPlugin.commandBytes (str "AUTH " ++ password)) :: .hear RedisPlugin.authenticated
      :: ping
  else
    ping

def scripts : Conversation → List Script
  | pop _ _ config => [popScript config.username config.password]
  | imap _ _ config => [imapScript config.username config.password]
  | nntp _ config => [nntpScript config.username config.password]
  | ftp _ config => ftpScripts config.username config.password config.anonymous
  | ircd _ config => ircdScripts config.nickname
  | jabber _ config => jabberScripts config.hostname
  | smtp _ config => [smtpScript config.expectString]
  | ssh _ _ => [sshScript]
  | telnet _ config => [telnetScript config.sendString config.expectString]
  | redis _ config => [redisScript config.password]

/-- All but `check_redis` read once for each response. -/
def IsSingle : Conversation → Prop
  | redis _ _ => False
  | _ => True

theorem keeps_read {good : β → Prop} {size : Nat} {enough test : Bytes → Bool} {before : Bytes}
    {next : Bytes → Dialogue β} {script : Script}
    (hpass : ∀ response, test response = true → (next response).Keeps good [script])
    (hfail : ∀ response, test response = false → (next response).Keeps good [])
    : (.read size enough before next : Dialogue β).Keeps good [.hear test :: script] := by
  intro response
  cases htest : test response with
  | true =>
    simp only [List.filterMap_cons, Script.hear?, htest, ↓reduceIte, List.filterMap_nil]
    exact hpass response htest
  | false =>
    simp only [List.filterMap_cons, Script.hear?, htest, Bool.false_eq_true, ↓reduceIte,
      List.filterMap_nil]
    exact hfail response htest

/-- What the checks that ask for the availability keep to. -/
abbrev Plays (check : Dialogue Bool) (scripts : List Script) : Prop := check.Keeps (· = true) scripts

theorem plays_false (scripts : List Script) : Plays (.done false) scripts := by
  intro hgood
  contradiction

theorem plays_true : Plays (.done true) [[]] := fun _ => ⟨[], List.mem_singleton_self _, rfl⟩

/-- `response.empty() || !test`, where the empty response may pass the test all the same. -/
theorem plays_judge {test : Bytes → Bool} {next : Bytes → Dialogue Bool} {script : Script}
    (h : ∀ response, test response = true → Plays (next response) [script])
    : Plays
        (readResponse >>= fun response =>
          if response = [] || !test response then .done false else next response)
        [.hear test :: script] := by
  apply keeps_read
  . intro response htest
    show Plays (if response = [] || !test response then .done false else next response) _
    split
    . exact plays_false _
    . exact h response htest
  . intro response htest
    show Plays (if response = [] || !test response then .done false else next response) _
    rw [if_pos (by simp [htest])]
    exact plays_false _

theorem filterMap_say_line (command : Bytes) (scripts : List Script)
    : (scripts.map (line command :: ·)).filterMap (Script.say? (command ++ crlf)) = scripts := by
  rw [List.filterMap_map]
  simp [Function.comp_def, line, Script.say?]

theorem plays_sendCommands {command : Bytes} {next : Dialogue Bool} {scripts : List Script}
    (hne : scripts ≠ []) (h : Plays next scripts)
    : Plays (sendCommand command >>= fun ok => if !ok then .done false else next)
        (scripts.map (line command :: ·)) := by
  refine ⟨?_, ?_, ?_⟩
  . rwa [filterMap_say_line]
  . rw [filterMap_say_line]
    exact h
  . exact plays_false _

theorem plays_sendCommand {command : Bytes} {next : Dialogue Bool} {script : Script}
    (h : Plays next [script])
    : Plays (sendCommand command >>= fun ok => if !ok then .done false else next)
        [line command :: script] :=
  plays_sendCommands (List.cons_ne_nil _ _) h

theorem plays_sendEither {command : Bytes} {next : Dialogue Bool} {script script' : Script}
    (h : Plays next [script, script'])
    : Plays (sendCommand command >>= fun ok => if !ok then .done false else next)
        [line command :: script, line command :: script'] :=
  plays_sendCommands (List.cons_ne_nil _ _) h

/-- The last words are sent without a look at their fate. -/
theorem plays_farewells {command : Bytes} {result : Bool} {scripts : List Script}
    (hne : scripts ≠ []) (h : result = true → [] ∈ scripts)
    : Plays (sendCommand command >>= fun _ => readResponse >>= fun _ => .done result)
        (scripts.map (line command :: ·)) := by
  refine ⟨?_, ?_, ?_⟩
  . rwa [filterMap_say_line]
  . rw [filterMap_say_line]
    intro response hresult
    exact ⟨[], List.mem_filterMap.mpr ⟨[], h hresult, rfl⟩, rfl⟩
  . rw [filterMap_say_line]
    intro response hresult
    have hmuted : [] ∈ scripts.map Script.muted := List.mem_map.mpr ⟨[], h hresult, rfl⟩
    exact ⟨[], List.mem_filterMap.mpr ⟨[], hmuted, rfl⟩, rfl⟩

theorem plays_farewell (command : Bytes) (result : Bool)
    : Plays (sendCommand command >>= fun _ => readResponse >>= fun _ => .done result)
        [[line command]] :=
  plays_farewells (List.cons_ne_nil _ _) fun _ => List.mem_singleton_self _

end Conversation

open Conversation

theorem PopPlugin.plays_checkPop (connected : Bool) (user pass : Bytes)
    : Plays (checkPop connected user pass) [popScript user pass] := by
  unfold checkPop popScript
  cases connected with
  | false => exact plays_false _
  | true =>
    simp only [Bool.not_true, Bool.false_eq_true, ↓reduceIte, pure_eq_done]
    apply plays_judge
    intro _ _
    split
    . apply plays_sendCommand
      apply plays_judge
      intro _ _
      split
      . apply plays_sendCommand
        apply plays_judge
        intro _ _
        exact plays_farewell _ _
      . exact plays_true
    . exact plays_true

theorem ImapPlugin.plays_checkImap (connected : Bool) (user pass : Bytes)
    : Plays (checkImap connected user pass) [imapScript user pass] := by
  unfold checkImap imapScript
  cases connected with
  | false => exact plays_false _
  | true =>
    simp only [Bool.not_true, Bool.false_eq_true, ↓reduceIte, pure_eq_done]
    apply plays_judge
    intro _ _
    split
    . apply plays_sendCommand
      apply plays_judge
      intro _ _
      exact plays_farewell _ _
    . exact plays_true

theorem NntpPlugin.plays_checkNntp (connected : Bool) (user pass : Bytes)
    : Plays (checkNntp connected user pass) [nntpScript user pass] := by
  unfold checkNntp nntpScript
  cases connected with
  | false => exact plays_false _
  | true =>
    simp only [Bool.not_true, Bool.false_eq_true, ↓reduceIte, pure_eq_done, not_isGreeting]
    apply plays_judge
    intro _ _
    split
    . apply plays_sendCommand
      apply plays_judge
      intro _ _
      apply plays_sendCommand
      apply plays_judge
      intro _ _
      exact plays_farewell _ _
    . exact plays_farewell _ _

theorem FtpPlugin.plays_sendPass (pass : Bytes) (anon : Bool)
    : Plays (sendPass pass anon)
        [[line (str "PASS " ++ loginPass pass anon), .hear (startsWith · '2'),
          line (str "QUIT")]] := by
  unfold sendPass passAnswer
  apply plays_sendCommand
  apply plays_judge
  intro _ _
  exact plays_farewell _ _

/-- The reply to the user decides which of the two scripts it is. -/
theorem FtpPlugin.plays_userAnswer (pass : Bytes) (anon : Bool)
    : Plays (userAnswer pass anon)
        [[.hear (startsWith · '3'), line (str "PASS " ++ loginPass pass anon),
            .hear (startsWith · '2'), line (str "QUIT")],
          [.hear (startsWith · '2'), line (str "QUIT")]] := by
  intro response
  show Plays (if response = [] || (!startsWith response '3' && !startsWith response '2') then
    .done false else if startsWith response '3' then sendPass pass anon else quit) _
  split
  . exact plays_false _
  . next haccepted =>
    split
    . next hpass =>
      have hother : startsWith response '2' = false := by
        rw [startsWith, decide_eq_true_iff] at hpass
        simp only [startsWith, hpass, Option.some.injEq]
        decide
      simp only [List.filterMap_cons, Script.hear?, hpass, hother, Bool.false_eq_true, ↓reduceIte,
        List.filterMap_nil]
      exact plays_sendPass pass anon
    . next hpass =>
      rw [Bool.not_eq_true] at hpass
      have hquit : startsWith response '2' = true := by
        simp only [hpass, Bool.or_eq_true, decide_eq_true_eq, Bool.not_false, Bool.true_and,
          Bool.not_eq_true', not_or, Bool.not_eq_false] at haccepted
        exact haccepted.2
      simp only [List.filterMap_cons, Script.hear?, hpass, hquit, Bool.false_eq_true, ↓reduceIte,
        List.filterMap_nil]
      exact plays_farewell _ _

theorem FtpPlugin.plays_checkFtp (connected : Bool) (user pass : Bytes) (anon : Bool)
    : Plays (checkFtp connected user pass anon) (ftpScripts user pass anon) := by
  unfold checkFtp ftpScripts
  cases connected with
  | false => exact plays_false _
  | true =>
    simp only [Bool.not_true, Bool.false_eq_true, ↓reduceIte, pure_eq_done]
    intro response
    show Plays (if response = [] || !startsWith response '2' then .done false
      else sendUser user pass anon) _
    split
    . exact plays_false _
    . next haccepted =>
      have hpass : startsWith response '2' = true := by
        simp only [Bool.or_eq_true, decide_eq_true_eq, Bool.not_eq_true', not_or,
          Bool.not_eq_false] at haccepted
        exact haccepted.2
      simp only [List.filterMap_cons, Script.hear?, hpass, ↓reduceIte, List.filterMap_nil]
      exact plays_sendEither (plays_userAnswer pass anon)

theorem IrcdPlugin.plays_checkIrcd (connected : Bool) (nick : Bytes)
    : Plays (checkIrcd connected nick) (ircdScripts nick) := by
  unfold checkIrcd ircdScripts
  cases connected with
  | false => exact plays_false _
  | true =>
    simp only [Bool.not_true, Bool.false_eq_true, ↓reduceIte, pure_eq_done]
    intro response
    show Plays (if response = [] then .done false else _) _
    split
    . exact plays_false _
    . next hresponse =>
      simp only [List.filterMap_cons, Script.hear?, ne_eq, hresponse, not_false_eq_true, decide_true,
        ↓reduceIte, List.filterMap_nil]
      apply plays_sendEither
      apply plays_sendEither
      intro response
      show Plays (sendCommand (str "QUIT") >>= fun _ => readResponse >>= fun _ =>
        .done (isWelcome response)) _
      cases hwelcome : isWelcome response with
      | true =>
        simp only [List.filterMap_cons, Script.hear?, hwelcome, ↓reduceIte, List.filterMap_nil]
        exact plays_farewells (List.cons_ne_nil _ [[failure]]) fun _ => List.mem_cons_self
      | false =>
        simp only [List.filterMap_cons, Script.hear?, hwelcome, Bool.false_eq_true, ↓reduceIte,
          List.filterMap_nil]
        exact plays_farewells (List.cons_ne_nil [failure] []) fun h => absurd h Bool.false_ne_true

theorem SmtpPlugin.plays_checkSmtp (connected : Bool) (expectString : Bytes)
    : Plays (checkSmtp connected expectString) [smtpScript expectString] := by
  unfold checkSmtp smtpScript
  cases connected with
  | false => exact plays_false _
  | true =>
    simp only [Bool.not_true, Bool.false_eq_true, ↓reduceIte, pure_eq_done]
    apply keeps_read
    . intro response hresponse
      show Plays (if response = [] then .done false else .done (contains response expectString)) _
      split
      . exact plays_false _
      . rw [hresponse]
        exact plays_true
    . intro response hresponse
      show Plays (if response = [] then .done false else .done (contains response expectString)) _
      rw [hresponse, ite_self]
      exact plays_false _

theorem SshPlugin.plays_checkSsh (connected : Bool) : Plays (checkSsh connected) [sshScript] := by
  unfold checkSsh sshScript
  cases connected with
  | false => exact plays_false _
  | true =>
    simp only [Bool.not_true, Bool.false_eq_true, ↓reduceIte, pure_eq_done]
    apply keeps_read
    . intro response hresponse
      exact fun _ => ⟨[], List.mem_singleton_self _, rfl⟩
    . intro response hresponse hgood
      rw [hresponse] at hgood
      contradiction

theorem TelnetPlugin.plays_answer (expect : Bytes)
    : Plays (readResponse >>= fun response => .done (isExpected expect response))
        [[.hear (isExpected expect)]] := by
  apply keeps_read
  . intro response hresponse
    exact fun _ => ⟨[], List.mem_singleton_self _, rfl⟩
  . intro response hresponse hgood
    rw [hresponse] at hgood
    contradiction

theorem TelnetPlugin.plays_checkTelnet (connected : Bool) (send expect : Bytes)
    : Plays (checkTelnet connected send expect) [telnetScript send expect] := by
  unfold checkTelnet telnetScript
  cases connected with
  | false => exact plays_false _
  | true =>
    simp only [Bool.not_true, Bool.false_eq_true, ↓reduceIte, pure_eq_done]
    by_cases hsend : send = []
    . simp only [hsend, ne_eq, not_true_eq_false, ↓reduceIte]
      exact plays_answer expect
    . simp only [hsend, ne_eq, not_false_eq_true, ↓reduceIte]
      apply keeps_read
      . intro response _
        have hsay : [[line send, .hear (isExpected expect)]].filterMap
            (Script.say? (send ++ crlf)) = [[.hear (isExpected expect)]] :=
          filterMap_say_line send [[.hear (isExpected expect)]]
        refine ⟨?_, ?_, ?_⟩
        . rw [hsay]
          exact List.cons_ne_nil _ _
        . rw [hsay]
          exact plays_answer expect
        -- Where nothing was sent, the check waits for an answer all the same.
        . rw [hsay]
          exact plays_answer expect
      . intro response hresponse
        contradiction

theorem JabberPlugin.keeps_footer {result : PluginResult} {scripts : List Script}
    (hne : scripts ≠ []) (h : result.code = .ok → [] ∈ scripts)
    : (sendXmpp (str "</stream:stream>") >>= fun _ => .done result).Keeps (·.code = .ok)
        (scripts.map (.say (str "</stream:stream>") :: ·)) := by
  have hsay : (scripts.map (.say (str "</stream:stream>") :: ·)).filterMap
      (Script.say? (str "</stream:stream>")) = scripts := by
    rw [List.filterMap_map]
    simp [Function.comp_def, Script.say?]
  refine ⟨?_, ?_, ?_⟩
  . rwa [hsay]
  . rw [hsay]
    exact fun hresult => ⟨[], h hresult, rfl⟩
  . rw [hsay]
    exact fun hresult => ⟨[], List.mem_map.mpr ⟨[], h hresult, rfl⟩, rfl⟩

theorem JabberPlugin.keeps_check (connected : Bool) (config : JabberPlugin.Config)
    : (check connected config).Keeps (·.code = .ok) (jabberScripts config.hostname) := by
  have hcritical (reason : Bytes) (scripts : List Script)
      : (.done (critical reason) : Dialogue PluginResult).Keeps (·.code = .ok) scripts := by
    intro hgood
    contradiction
  unfold check jabberScripts
  split
  . intro hgood
    contradiction
  . cases connected with
    | false => exact hcritical _ _
    | true =>
      simp only [Bool.not_true, Bool.false_eq_true, ↓reduceIte, pure_eq_done]
      intro response
      show (if !isStream response then .done _ else _ : Dialogue PluginResult).Keeps _ _
      split
      . exact hcritical _ _
      . next hstream =>
        simp only [Bool.not_eq_true', Bool.not_eq_false] at hstream
        simp only [List.filterMap_cons, Script.hear?, hstream, ↓reduceIte, List.filterMap_nil]
        have hsay : [[Event.say (streamHeader config.hostname), .hear isFeatures,
              .say (str "</stream:stream>")],
            [.say (streamHeader config.hostname), .hear (fun _ => true),
              .say (str "</stream:stream>"), Conversation.failure]].filterMap
                (Script.say? (streamHeader config.hostname))
            = [[.hear isFeatures, .say (str "</stream:stream>")],
              [.hear (fun _ => true), .say (str "</stream:stream>"), Conversation.failure]] := by
          simp [Script.say?]
        refine ⟨?_, ?_, hcritical _ _⟩
        . rw [hsay]
          exact List.cons_ne_nil _ _
        . rw [hsay]
          intro response
          show (sendXmpp (str "</stream:stream>") >>= fun _ =>
            if isFeatures response then .done _ else .done _ : Dialogue PluginResult).Keeps _ _
          cases hfeatures : isFeatures response with
          | true =>
            simp only [List.filterMap_cons, Script.hear?, hfeatures, ↓reduceIte,
              List.filterMap_nil]
            exact keeps_footer (List.cons_ne_nil _ [[Conversation.failure]])
              fun _ => List.mem_cons_self
          | false =>
            simp only [List.filterMap_cons, Script.hear?, hfeatures, Bool.false_eq_true, ↓reduceIte,
              List.filterMap_nil]
            apply keeps_footer (List.cons_ne_nil [Conversation.failure] [])
            intro hcode
            contradiction

namespace RedisPlugin

theorem keeps_sendRedisCommand {command : Bytes} {test : Bytes → Bool}
    {next : Bytes → Dialogue PluginResult} {script : Script} {refused : PluginResult}
    (hempty : next [] = .done refused) (hrefused : refused.code ≠ .ok)
    (hpass : ∀ response, test response = true → (next response).Keeps (·.code = .ok) [script])
    (hfail : ∀ response, test response = false → (next response).Keeps (·.code = .ok) [])
    : (sendRedisCommand command >>= next).Keeps (·.code = .ok)
        [.say (commandBytes command) :: .hear test :: script] := by
  have hsay : [.say (commandBytes command) :: .hear test :: script].filterMap
      (Script.say? (commandBytes command)) = [.hear test :: script] := by
    simp [Script.say?]
  refine ⟨?_, ?_, ?_⟩
  . rw [hsay]
    exact List.cons_ne_nil _ _
  . rw [hsay]
    exact keeps_read hpass hfail
  . show (next []).Keeps _ _
    rw [hempty]
    exact fun hgood => absurd hgood hrefused

theorem keeps_pingAndInfo
    : pingAndInfo.Keeps (·.code = .ok)
        [[.say (commandBytes (str "PING")), .hear ponged, .say (commandBytes (str "INFO")),
          .hear fun response => (infoResult response).code = .ok]] := by
  unfold pingAndInfo
  apply keeps_sendRedisCommand rfl (by decide)
  . intro response hresponse
    rw [if_neg (by simp [hresponse])]
    apply keeps_sendRedisCommand rfl (by decide)
    . intro response hresponse
      exact fun _ => ⟨[], List.mem_singleton_self _, rfl⟩
    . intro response hresponse hgood
      exact absurd hgood (by simpa using hresponse)
  . intro response hresponse
    rw [if_pos (by simp [hresponse])]
    exact nofun

theorem keeps_check (connected : Bool) (config : RedisPlugin.Config)
    : (check connected config).Keeps (·.code = .ok) [redisScript config.password] := by
  unfold check redisScript
  split
  . exact nofun
  . cases connected with
    | false => exact nofun
    | true =>
      simp only [Bool.not_true, Bool.false_eq_true, ↓reduceIte, pure_eq_done]
      split
      . apply keeps_sendRedisCommand rfl (by decide)
        . intro response hresponse
          rw [if_neg (by simp [hresponse])]
          exact keeps_pingAndInfo
        . intro response hresponse
          rw [if_pos (by simp [hresponse])]
          exact nofun
      . exact keeps_pingAndInfo

end RedisPlugin

end NetmonPlugins

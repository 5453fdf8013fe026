import NetmonPlugins.Plugins.Conversations.Scripts

/-!
This module contains the runs of the checks that speak with a server: in any of them they send the
messages of their protocol in its order, and where they report the service as available, the server
has said what they take for it.
-/

namespace NetmonPlugins

open Dialogue

namespace Conversation

theorem keeps_checkService {service hostname : Bytes} {port : Int} {check : Dialogue Bool}
    {scripts : List Script} (h : Plays check scripts)
    : (checkService service hostname port check).Keeps (·.code = .ok) scripts := by
  unfold checkService
  split
  . exact nofun
  . apply h.map (availability service hostname port (str "accepting connections"))
    intro available hgood
    cases available with
    | true => rfl
    | false => contradiction

theorem keeps_availability {service hostname : Bytes} {port : Int} {check : Dialogue Bool}
    {scripts : List Script} (h : Plays check scripts)
    : (check >>= fun success => .done (availability service hostname port
          (if success then str "accepting connections" else str "responding") success)).Keeps
        (·.code = .ok) scripts := by
  apply h.map fun success => availability service hostname port
    (if success then str "accepting connections" else str "responding") success
  intro success hgood
  cases success with
  | true => rfl
  | false => contradiction

theorem keeps_client (conversation : Conversation)
    : conversation.client.Keeps (·.code = .ok) conversation.scripts := by
  cases conversation with
  | pop sslEnabled connected config => exact keeps_checkService (PopPlugin.plays_checkPop _ _ _)
  | imap sslEnabled connected config => exact keeps_checkService (ImapPlugin.plays_checkImap _ _ _)
  | nntp connected config => exact keeps_checkService (NntpPlugin.plays_checkNntp _ _ _)
  | ftp connected config => exact keeps_checkService (FtpPlugin.plays_checkFtp _ _ _ _)
  | ircd connected config => exact keeps_checkService (IrcdPlugin.plays_checkIrcd _ _)
  | jabber connected config => exact JabberPlugin.keeps_check _ _
  | smtp connected config =>
    rw [client, SmtpPlugin.check]
    split
    . exact nofun
    . exact keeps_availability (SmtpPlugin.plays_checkSmtp _ _)
  | ssh connected config =>
    rw [client, SshPlugin.check]
    split
    . exact nofun
    . exact keeps_availability (SshPlugin.plays_checkSsh _)
  | telnet connected config => exact keeps_checkService (TelnetPlugin.plays_checkTelnet _ _ _)
  | redis connected config => exact RedisPlugin.keeps_check _ _

theorem scripts_ne_nil (conversation : Conversation) : conversation.scripts ≠ [] := by
  cases conversation <;> exact List.cons_ne_nil _ _

/-- In every state of every run, the messages that the server has heard are the first ones of a
script of the protocol, and the responses before them have passed its tests. -/
theorem follows_script (conversation : Conversation) (peer : Peer) {s : State PluginResult}
    (h : Reaches (step peer) (fun _ _ => True) (start peer conversation.client) s)
    : ∃ script ∈ conversation.scripts, script.Follows s.heard s.responses :=
  conversation.keeps_client.follows_of_reaches conversation.scripts_ne_nil h

theorem once_checkService {service hostname : Bytes} {port : Int} {check : Dialogue Bool}
    (h : check.Once)
    : (checkService service hostname port check).Once := by
  unfold checkService
  rw [once_ite]
  exact ⟨fun _ => trivial, fun _ => h.bind fun _ => trivial⟩

theorem once_client {conversation : Conversation} (h : conversation.IsSingle)
    : conversation.client.Once := by
  cases conversation with
  | pop sslEnabled connected config =>
    apply once_checkService
    simp [PopPlugin.checkPop, readResponse, sendCommand, Once]
  | imap sslEnabled connected config =>
    apply once_checkService
    simp [ImapPlugin.checkImap, readResponse, sendCommand, Once]
  | nntp connected config =>
    apply once_checkService
    simp [NntpPlugin.checkNntp, readResponse, sendCommand, Once]
  | ftp connected config =>
    apply once_checkService
    simp [FtpPlugin.checkFtp, FtpPlugin.sendUser, FtpPlugin.userAnswer, FtpPlugin.sendPass,
      FtpPlugin.passAnswer, FtpPlugin.quit, readResponse, sendCommand, Once]
  | ircd connected config =>
    apply once_checkService
    simp [IrcdPlugin.checkIrcd, readResponse, sendCommand, Once]
  | jabber connected config =>
    simp [client, JabberPlugin.check, JabberPlugin.receiveXmpp, JabberPlugin.sendXmpp, Once]
  | smtp connected config =>
    rw [client, SmtpPlugin.check, once_ite]
    refine ⟨fun _ => trivial, fun _ => Once.bind ?_ fun _ => trivial⟩
    simp [SmtpPlugin.checkSmtp, readResponse, Once]
  | ssh connected config =>
    rw [client, SshPlugin.check, once_ite]
    refine ⟨fun _ => trivial, fun _ => Once.bind ?_ fun _ => trivial⟩
    simp [SshPlugin.checkSsh, readResponse, Once]
  | telnet connected config =>
    apply once_checkService
    simp [TelnetPlugin.checkTelnet, readResponse, sendCommand, Once]
  | redis connected config => contradiction

/-- Where the check reports the service as available, pieces of what the server has said, one behind
the other, pass all tests of a script, whatever the network has cut, held back or lost. -/
theorem evidence_of_ok (conversation : Conversation) (hsingle : conversation.IsSingle) (peer : Peer)
    (actions : List Action) {s : State PluginResult} {result : PluginResult}
    (h : exec (step peer) (start peer conversation.client) actions = some s)
    (hdone : s.client = .done result) (hok : result.code = .ok)
    : ∃ script ∈ conversation.scripts, Script.Evidence script.tests (said peer s.heard) :=
  conversation.keeps_client.evidence_of_exec (once_client hsingle) h hdone hok

def mailServer : Peer := fun heard => if heard.length < 4 then str "+OK ready" ++ crlf else []

def mailCheck : Conversation :=
  .pop false true { hostname := str "mail", username := str "ann", password := str "secret" }

theorem follows_script_mailCheck
    : ∃ s, exec (step mailServer) (start mailServer mailCheck.client)
          [.deliver 11, .send true, .deliver 11, .send true] = some s
        ∧ s.heard = [str "USER ann" ++ crlf, str "PASS secret" ++ crlf]
        ∧ ∃ script ∈ mailCheck.scripts, script.Follows s.heard s.responses := by
  have hrun : ((exec (step mailServer) (start mailServer mailCheck.client)
      [.deliver 11, .send true, .deliver 11, .send true]).map (·.heard))
      = some [str "USER ann" ++ crlf, str "PASS secret" ++ crlf] := by decide +kernel
  obtain ⟨s, hs, hheard⟩ := Option.map_eq_some_iff.mp hrun
  have hreach : Reaches (step mailServer) (fun _ _ => True)
      (start mailServer mailCheck.client) s :=
    .of_exec _ (fun _ _ => trivial) .refl hs
  exact ⟨s, hs, hheard, follows_script mailCheck mailServer hreach⟩

/-- Of the answer to the last command only a part arrives. -/
def mailActions : List Action :=
  [.deliver 11, .send true, .deliver 11, .send true, .deliver 11, .send true, .deliver 3]

theorem evidence_of_ok_mailCheck
    : ∃ s result, exec (step mailServer) (start mailServer mailCheck.client) mailActions = some s
        ∧ s.client = .done result
        ∧ result.code = .ok
        ∧ ∃ script ∈ mailCheck.scripts, Script.Evidence script.tests (said mailServer s.heard) := by
  have hrun : outcome mailServer mailCheck.client mailActions
      = some (availability (str "POP3") (str "mail") 110 (str "accepting connections") true) := by
    decide +kernel
  obtain ⟨s, hexec, hdone⟩ := (outcome_eq_some_iff _ _ _ _).mp hrun
  exact ⟨s, _, hexec, hdone, rfl,
    evidence_of_ok mailCheck trivial mailServer mailActions hexec hdone rfl⟩

end Conversation
end NetmonPlugins

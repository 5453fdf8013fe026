import NetmonPlugins.Net.Replay
import NetmonPlugins.Plugins.Ircd.Impl
import NetmonPlugins.Plugins.Jabber.Impl
import NetmonPlugins.Plugins.Udp.Impl

/-!
This module contains the runs of `check_jabber`, `check_ircd` and `check_udp` against servers that
wait for the client to speak.
-/

namespace NetmonPlugins

structure ClientFirst where
  answer : Peer
  silent : answer [] = []

structure ClientFirstService where
  answer : List Bytes → List Bytes
  silent : answer [] = []

namespace Dialogue

def NeverCritical (peer : Peer) (client : Dialogue PluginResult) : Prop :=
  ∀ actions result, Obeys (step peer) Prompt (start peer client) actions
    → outcome peer client actions = some result
    → result.code ≠ .critical

theorem neverCritical_done (peer : Peer) (result : PluginResult)
    : NeverCritical peer (.done result) ↔ result.code ≠ .critical := by
  constructor
  . intro h
    exact h [] result trivial rfl
  . intro h actions result' _ hrun
    cases actions with
    | nil =>
      change some result = some result' at hrun
      rw [Option.some.injEq] at hrun
      rwa [← hrun]
    | cons a actions => simp [outcome, exec, step_done (s := start peer (.done result)) rfl] at hrun

theorem neverCritical_read {peer : Peer} (hpeer : peer [] = []) {size : Nat}
    {enough : Bytes → Bool} {next : Bytes → Dialogue PluginResult} (waited : PluginResult)
    (hnext : next [] = .done waited)
    : NeverCritical peer (.read size enough [] next) ↔ waited.code ≠ .critical := by
  constructor
  . intro h
    apply h [.timeout] waited
    . exact ⟨hpeer, trivial⟩
    . show (next []).result? = _
      rw [hnext]
      rfl
  . intro h actions result _ hrun
    rwa [eq_of_outcome hpeer hnext hrun]

end Dialogue

namespace Exchange

def NeverCritical (peer : List Bytes → List Bytes) (client : Exchange PluginResult) : Prop :=
  ∀ actions result, Obeys (step peer) Prompt (start peer client) actions
    → outcome peer client actions = some result
    → result.code ≠ .critical

end Exchange

open Dialogue

theorem JabberPlugin.neverCritical_check_iff (server : ClientFirst) (config : JabberPlugin.Config)
    : NeverCritical server.answer (JabberPlugin.check true config) ↔ config.hostname = [] := by
  unfold JabberPlugin.check
  split
  . next hhost =>
    rw [pure_eq_done, neverCritical_done]
    simp [hhost, hostnameMissing]
  . next hhost =>
    simp only [Bool.not_true, Bool.false_eq_true, ↓reduceIte, receiveXmpp, read_bind, done_bind]
    rw [neverCritical_read server.silent (critical (str "Invalid XMPP stream response"))
      rfl]
    simp [hhost, critical]

theorem IrcdPlugin.neverCritical_check_iff (server : ClientFirst) (config : IrcdPlugin.Config)
    : NeverCritical server.answer (IrcdPlugin.check true config) ↔ config.hostname = [] := by
  unfold IrcdPlugin.check checkService
  split
  . next hhost =>
    rw [pure_eq_done, neverCritical_done]
    simp [hhost, hostnameMissing]
  . next hhost =>
    unfold checkIrcd readResponse
    simp only [Bool.not_true, Bool.false_eq_true, ↓reduceIte, read_bind, done_bind]
    rw [neverCritical_read server.silent (availability (str "IRC") config.hostname
      config.port (str "accepting connections") false) rfl]
    simp [hhost, availability]

theorem UdpPlugin.neverCritical_check_iff (service : ClientFirstService) (config : UdpPlugin.Config)
    (hsend : config.sendString = []) (hexpect : config.expectString = [])
    : Exchange.NeverCritical service.answer (UdpPlugin.check true config)
        ↔
      config.hostname = [] ∨ config.port < 0 := by
  unfold UdpPlugin.check
  split
  . next hmissing =>
    simp only [hmissing, iff_true]
    intro actions result _ hrun
    cases actions with
    | nil =>
      change some _ = some result at hrun
      rw [Option.some.injEq] at hrun
      rw [← hrun]
      decide
    | cons a actions => simp [Exchange.outcome, exec, Exchange.step, Exchange.start] at hrun
  . next hmissing =>
    simp only [hmissing, iff_false]
    intro h
    rw [hsend, hexpect] at h
    apply h [.timeout] (availability (str "UDP") config.hostname config.port (str "responding")
      false)
    . exact ⟨service.silent, trivial⟩
    . rfl
    . rfl

theorem neverCritical_iff (server : ClientFirst) (service : ClientFirstService)
    (jabber : JabberPlugin.Config) (ircd : IrcdPlugin.Config) (udp : UdpPlugin.Config)
    (hsend : udp.sendString = []) (hexpect : udp.expectString = [])
    : (NeverCritical server.answer (JabberPlugin.check true jabber) ↔ jabber.hostname = [])
        ∧ (NeverCritical server.answer (IrcdPlugin.check true ircd) ↔ ircd.hostname = [])
        ∧ (Exchange.NeverCritical service.answer (UdpPlugin.check true udp)
          ↔ udp.hostname = [] ∨ udp.port < 0) := by
  refine ⟨?_, ?_, ?_⟩
  . apply JabberPlugin.neverCritical_check_iff
  . apply IrcdPlugin.neverCritical_check_iff
  . apply UdpPlugin.neverCritical_check_iff service udp hsend hexpect

def xmppServer : ClientFirst where
  answer heard :=
    match heard.getLast? with
    | none => []
    | some message =>
      if contains message (str "<stream:stream") then
        str "<?xml version='1.0'?><stream:stream from='chat' id='s1' xmlns='jabber:client' "
          ++ str "xmlns:stream='http://etherx.jabber.org/streams' version='1.0'>"
          ++ str "<stream:features/>"
      else
        []
  silent := rfl

def ircServer : ClientFirst where
  answer heard :=
    match heard.getLast? with
    | none => []
    | some message =>
      if (str "USER ").isPrefixOf message then str ":irc 001 monitor :Welcome\n" else []
  silent := rfl

def echoService : ClientFirstService where
  answer heard := heard.getLast?.toList
  silent := rfl

theorem neverCritical_of_missingHost
    : NeverCritical xmppServer.answer (JabberPlugin.check true {})
        ∧ NeverCritical xmppServer.answer (IrcdPlugin.check true {})
        ∧ Exchange.NeverCritical echoService.answer (UdpPlugin.check true {}) := by
  obtain ⟨hjabber, hircd, hudp⟩ := neverCritical_iff xmppServer echoService {} {} {} rfl rfl
  exact ⟨hjabber.mpr rfl, hircd.mpr rfl, hudp.mpr (.inl rfl)⟩

/-- Each of these servers would answer, but the check waits for it to begin. -/
theorem not_neverCritical_of_answering
    : ¬ NeverCritical xmppServer.answer (JabberPlugin.check true { hostname := str "chat" })
        ∧ ¬ NeverCritical ircServer.answer (IrcdPlugin.check true { hostname := str "irc" })
        ∧ ¬ Exchange.NeverCritical echoService.answer
            (UdpPlugin.check true { hostname := str "echo", port := 7 }) := by
  refine ⟨?_, ?_, ?_⟩
  . intro h
    apply h [.timeout] (JabberPlugin.critical (str "Invalid XMPP stream response"))
    . exact ⟨rfl, trivial⟩
    . decide +kernel
    . rfl
  . intro h
    apply h [.timeout]
      (availability (str "IRC") (str "irc") 6667 (str "accepting connections") false)
    . exact ⟨rfl, trivial⟩
    . decide +kernel
    . rfl
  . intro h
    apply h [.timeout] (availability (str "UDP") (str "echo") 7 (str "responding") false)
    . exact ⟨rfl, trivial⟩
    . decide +kernel
    . rfl

end NetmonPlugins

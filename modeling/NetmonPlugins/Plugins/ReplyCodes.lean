import NetmonPlugins.Cxx.Numeric
import NetmonPlugins.Plugins.LineChecks.Verdict
import NetmonPlugins.Plugins.Sip.Impl
import NetmonPlugins.Plugins.Smtp.Impl

/-!
This module contains the codes of the replies that `check_smtp`, `check_ircd` and `check_sip` judge
by, and when a reply that is accepted carries one of them.
-/

namespace NetmonPlugins

open Dialogue

/-- A code of three digits, which no further digit follows. -/
def threeDigits (text : Bytes) : Option Bytes :=
  let code := text.take 3
  if code.length = 3 ∧ code.all isDigit = true ∧ ((text.drop 3).head?.any isDigit) = false then
    some code
  else
    none

theorem availability_code (service hostname : Bytes) (port : Int) (doing : Bytes) (available : Bool)
    : (availability service hostname port doing available).code = .ok ↔ available = true := by
  unfold availability
  cases available with
  | true => simp
  | false => simp

namespace SmtpPlugin

/-- All lines of a reply begin with its code. -/
def replyCode (text : Bytes) : Option Bytes := threeDigits text

theorem play_checkSmtp (expectString : Bytes) (responses : List Bytes)
    : (checkSmtp true expectString).play [] responses
        =
      (decide (responses.headD [] ≠ []) && contains (responses.headD []) expectString) := by
  unfold checkSmtp
  simp only [Bool.not_true, Bool.false_eq_true, ↓reduceIte, pure_eq_done]
  rw [play_readResponse]
  generalize responses.headD [] = response
  cases response with
  | nil => rfl
  | cons b response => simp

theorem check_eq_ok_iff {config : Config} (hhost : config.hostname ≠ [])
    (hexpect : config.expectString = str "220") (text : Bytes)
    : ((check true config).play [] [cstr text]).code = .ok
        ↔
      contains (cstr text) (str "220") = true := by
  have hcheck : check true config
      = checkSmtp true (str "220") >>= fun success =>
        .done (availability (str "SMTP") config.hostname config.port
          (if success then str "accepting connections" else str "responding") success) := by
    unfold check
    rw [if_neg hhost, hexpect]
    rfl
  rw [hcheck, play_bind_done, availability_code, play_checkSmtp, List.headD_cons, Bool.and_eq_true]
  constructor
  . exact And.right
  . intro h
    refine ⟨?_, h⟩
    rw [decide_eq_true_eq]
    intro hnil
    rw [hnil] at h
    contradiction

end SmtpPlugin

namespace IrcdPlugin

/-- The command of a message that is a numeric, behind the origin of the message. -/
def numeric (line : Bytes) : Option Bytes :=
  let message :=
    if startsWith line ':' then (line.dropWhile (· ≠ 32)).dropWhile (· = 32) else line
  let command := message.takeWhile fun c => c ≠ 32 && c ≠ 13
  if command.length = 3 ∧ command.all isDigit = true then some command else none

def numerics (text : Bytes) : List Bytes := (getlines [] text).filterMap numeric

theorem check_eq_ok_iff {config : Config} (hhost : config.hostname ≠ []) (greeting text : Bytes)
    (rest : List Bytes)
    : ((check true config).play [] (cstr greeting :: cstr text :: rest)).code = .ok
        ↔
      cstr greeting ≠ [] ∧ isWelcome (cstr text) = true := by
  have hcheck : check true config
      = checkIrcd true config.nickname >>= fun available =>
        .done (availability (str "IRC") config.hostname config.port (str "accepting connections")
          available) := by
    unfold check checkService
    rw [if_neg hhost]
    rfl
  rw [hcheck, play_bind_done, availability_code, play_checkIrcd]
  simp [tests, accepts]

end IrcdPlugin

namespace SipPlugin

def statusCode (text : Bytes) : Option Bytes :=
  if str "SIP/2.0 " <+: text then threeDigits (text.drop 8) else none

/-- A server that answers the request with this text. -/
def answering (text : Bytes) (heard : List Bytes) : List Bytes := if heard = [] then [] else [text]

theorem outcome_check {config : Config} (hhost : config.hostname ≠ []) {text : Bytes}
    (hlength : text.length ≤ 4095)
    : Exchange.outcome (answering text) (check true true config) [.send false, .deliver 0]
        =
      some (checkResponse config (cstr text)) := by
  have hwhole : text.take 4095 = text := List.take_of_length_le hlength
  unfold check
  rw [if_neg hhost]
  simp [sendSipOptions, Exchange.map, Exchange.outcome, Exchange.start, answering, exec,
    Exchange.step, Exchange.result?, hwhole]

theorem checkResponse_eq_ok_iff (config : Config) (response : Bytes)
    : (checkResponse config response).code = .ok ↔ isResponding response = true := by
  unfold checkResponse
  dsimp only
  split
  . next hnil =>
    have hnot : isResponding [] = false := by decide
    simp [hnil, hnot]
  . split
    . next hresponding => simp [hresponding]
    . next hnot =>
      split
      . simp [hnot]
      . simp [hnot]

end SipPlugin

/-- A text that is accepted carries one of the codes unless it only mentions them. -/
theorem reply_code_sound_iff (text : Bytes)
    : (∀ config : SmtpPlugin.Config, config.hostname ≠ [] →
          config.expectString = str "220" →
          ((((SmtpPlugin.check true config).play [] [cstr text]).code = .ok →
              SmtpPlugin.replyCode text = some (str "220"))
            ↔ ¬ str "220" <:+: cstr text ∨ SmtpPlugin.replyCode text = some (str "220")))
        ∧ (∀ (config : IrcdPlugin.Config) (greeting : Bytes) (rest : List Bytes),
          config.hostname ≠ [] →
          ((((IrcdPlugin.check true config).play [] (cstr greeting :: cstr text :: rest)).code = .ok →
              ∃ code ∈ IrcdPlugin.numerics text, code = str "001" ∨ code = str "433")
            ↔ cstr greeting = []
              ∨ ¬ (str "001" <:+: cstr text ∨ str "433" <:+: cstr text)
              ∨ ∃ code ∈ IrcdPlugin.numerics text, code = str "001" ∨ code = str "433"))
        ∧ (∀ config : SipPlugin.Config, config.hostname ≠ [] → text.length ≤ 4095 →
          (((Exchange.outcome (SipPlugin.answering text) (SipPlugin.check true true config)
                [.send false, .deliver 0]).map PluginResult.code = some .ok →
              ∃ code ∈ [str "200", str "405", str "501"], SipPlugin.statusCode text = some code)
            ↔ (∀ code ∈ [str "200", str "405", str "501"], ¬ str "SIP/2.0 " ++ code <:+: cstr text)
              ∨ ∃ code ∈ [str "200", str "405", str "501"],
                SipPlugin.statusCode text = some code)) := by
  refine ⟨?_, ?_, ?_⟩
  . intro config hhost hexpect
    rw [SmtpPlugin.check_eq_ok_iff hhost hexpect, contains_iff_isInfix, imp_iff_not_or]
  . intro config greeting rest hhost
    rw [IrcdPlugin.check_eq_ok_iff hhost, imp_iff_not_or]
    unfold IrcdPlugin.isWelcome
    rw [Bool.or_eq_true, contains_iff_isInfix, contains_iff_isInfix, not_and_or, not_not, or_assoc]
  . intro config hhost hlength
    have hcodes : (∀ code ∈ [str "200", str "405", str "501"], ¬ str "SIP/2.0 " ++ code <:+: cstr text)
        ↔ ¬ SipPlugin.isResponding (cstr text) = true := by
      have h200 : str "SIP/2.0 200" = str "SIP/2.0 " ++ str "200" := by decide
      have h405 : str "SIP/2.0 405" = str "SIP/2.0 " ++ str "405" := by decide
      have h501 : str "SIP/2.0 501" = str "SIP/2.0 " ++ str "501" := by decide
      unfold SipPlugin.isResponding
      rw [Bool.or_eq_true, Bool.or_eq_true, contains_iff_isInfix, contains_iff_isInfix,
        contains_iff_isInfix, h200, h405, h501]
      simp [not_or, and_assoc]
    rw [SipPlugin.outcome_check hhost hlength, Option.map_some, Option.some.injEq,
      SipPlugin.checkResponse_eq_ok_iff, hcodes, imp_iff_not_or]

theorem reply_code_sound_of_served
    : (((SmtpPlugin.check true { hostname := str "mx" }).play [] [cstr (str "220 mx ESMTP\r\n")]).code
            = .ok →
          SmtpPlugin.replyCode (str "220 mx ESMTP\r\n") = some (str "220"))
        ∧ (((IrcdPlugin.check true { hostname := str "irc" }).play []
              [cstr (str ":irc NOTICE * :hi\r\n"), cstr (str ":irc 001 monitor :hello\r\n")]).code
            = .ok →
          ∃ code ∈ IrcdPlugin.numerics (str ":irc 001 monitor :hello\r\n"),
            code = str "001" ∨ code = str "433")
        ∧ ((Exchange.outcome (SipPlugin.answering (str "SIP/2.0 405 No\r\n\r\n"))
              (SipPlugin.check true true { hostname := str "pbx" }) [.send false, .deliver 0]).map
                PluginResult.code
            = some .ok →
          ∃ code ∈ [str "200", str "405", str "501"],
            SipPlugin.statusCode (str "SIP/2.0 405 No\r\n\r\n") = some code) := by
  refine ⟨?_, ?_, ?_⟩
  . apply ((reply_code_sound_iff (str "220 mx ESMTP\r\n")).1 { hostname := str "mx" } (by decide)
      rfl).mpr
    right
    decide
  . apply ((reply_code_sound_iff (str ":irc 001 monitor :hello\r\n")).2.1 { hostname := str "irc" }
      (str ":irc NOTICE * :hi\r\n") [] (by decide)).mpr
    right
    right
    decide
  . apply ((reply_code_sound_iff (str "SIP/2.0 405 No\r\n\r\n")).2.2 { hostname := str "pbx" }
      (by decide) (by decide)).mpr
    right
    decide

/-- Three refusals that mention the digits. -/
theorem reply_code_of_refusals
    : ((SmtpPlugin.check true { hostname := str "mx" }).play []
            [cstr (str "554 mx220 refuses\r\n")]).code = .ok
        ∧ SmtpPlugin.replyCode (str "554 mx220 refuses\r\n") = some (str "554")
        ∧ ((IrcdPlugin.check true { hostname := str "irc" }).play []
            [cstr (str ":irc NOTICE * :hi\r\n"), cstr (str "ERROR :banned (id 10012)\r\n")]).code = .ok
        ∧ IrcdPlugin.numerics (str "ERROR :banned (id 10012)\r\n") = []
        ∧ (Exchange.outcome
            (SipPlugin.answering (str "SIP/2.0 503 Down\r\nWarning: 399 pbx SIP/2.0 200\r\n\r\n"))
            (SipPlugin.check true true { hostname := str "pbx" }) [.send false, .deliver 0]).map
              PluginResult.code
          = some .ok
        ∧ SipPlugin.statusCode (str "SIP/2.0 503 Down\r\nWarning: 399 pbx SIP/2.0 200\r\n\r\n")
          = some (str "503") := by
  decide +kernel

end NetmonPlugins

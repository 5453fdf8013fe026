import NetmonPlugins.Common.HttpApi.Impl
import NetmonPlugins.Plugins.Docker.Impl
import NetmonPlugins.Plugins.Http.Impl
import NetmonPlugins.Plugins.Sip.Impl
import NetmonPlugins.Cxx.Digits
import NetmonPlugins.Rfc.Message

/-!
This module relates the requests the checks put together from their arguments to what the server
reads: an argument is written as it is, so that a break or a blank in it ends more than the check
means to end.
-/

namespace NetmonPlugins

open Message

/-- The port as the `Host` field names it. -/
def portSuffix (port : Int) : Bytes := if port ≠ 80 ∧ port ≠ 443 then str ":" ++ intDec port else []

namespace httpGetAuth

/-- The request `httpGetAuth` is to make. -/
def requested (host : Bytes) (port : Int) (path username password : Bytes) : Request where
  line := ⟨str "GET", path, str "HTTP/1.1"⟩
  fields :=
    [⟨str "Host", str " " ++ host ++ portSuffix port⟩,
      ⟨str "Connection", str " close"⟩,
      ⟨str "User-Agent", str " NetMon-Plugins/1.0"⟩,
      ⟨str "Accept", str " application/json, text/plain, */*"⟩]
      ++ if username ≠ [] then
          [⟨str "Authorization", str " Basic " ++ basicToken username password⟩]
        else
          []

theorem request_eq_text (host : Bytes) (port : Int) (path username password : Bytes)
    : request host port path username password
        =
      (requested host port path username password).text [] := by
  unfold request requested
  by_cases hname : username = []
  . simp [Request.text, Message.writeLines, Request.lines, RequestLine.text, Field.text,
      portSuffix, hname, str]
  . simp [Request.text, Message.writeLines, Request.lines, RequestLine.text, Field.text,
      portSuffix, hname, str]

theorem isFixed_requested (host : Bytes) (port : Int) (path username password : Bytes)
    : (requested host port path username password).IsFixed where
  method := by simp [requested, str]
  version := by simp [requested, str]
  names := by
    unfold requested
    split
    . simp [str]
    . simp [str]

end httpGetAuth

namespace HttpPlugin

def requested (host : Bytes) (portNum : Int) (path : Bytes) : Request where
  line := ⟨str "GET", path, str "HTTP/1.1"⟩
  fields :=
    [⟨str "Host", str " " ++ host ++ portSuffix portNum⟩,
      ⟨str "Connection", str " close"⟩,
      ⟨str "User-Agent", str " NetMon-Plugins/1.0"⟩]

end HttpPlugin

namespace DockerPlugin

def requested (path : Bytes) : Request where
  line := ⟨str "GET", path, str "HTTP/1.1"⟩
  fields := [⟨str "Host", str " localhost"⟩, ⟨str "Connection", str " close"⟩]

end DockerPlugin

namespace SipPlugin

theorem crlf_isInfix_address {front back : Bytes} (hfront : 13 ∉ front) (hback : 10 ∉ back)
    (user host : Bytes)
    : crlf <:+: front ++ user ++ str "@" ++ host ++ back
        ↔
      crlf <:+: user ∨ crlf <:+: host := by
  rw [crlf_isInfix_append_right hback, crlf_isInfix_append (.inl (by simp [str])),
    crlf_isInfix_append_right (by decide), crlf_isInfix_append_left hfront]

/-- The request `sendSipOptions` is to make. -/
def requested (host sender recipient : Bytes) : Request where
  line := ⟨str "OPTIONS", str "sip:" ++ recipient ++ str "@" ++ host, str "SIP/2.0"⟩
  fields :=
    [⟨str "Via", str " SIP/2.0/UDP " ++ host ++ str ";branch=z9hG4bK776asdhds"⟩,
      ⟨str "From", str " <sip:" ++ sender ++ str "@" ++ host ++ str ">;tag=1928301774"⟩,
      ⟨str "To", str " <sip:" ++ recipient ++ str "@" ++ host ++ str ">"⟩,
      ⟨str "Call-ID", str " test@" ++ host⟩,
      ⟨str "CSeq", str " 1 OPTIONS"⟩,
      ⟨str "Contact", str " <sip:" ++ sender ++ str "@" ++ host ++ str ">"⟩,
      ⟨str "Content-Length", str " 0"⟩]

set_option maxRecDepth 2000 in
theorem request_eq_text (host sender recipient : Bytes)
    : request host sender recipient = (requested host sender recipient).text [] := by
  unfold request requested
  simp [Request.text, Message.writeLines, Request.lines, RequestLine.text, Field.text, str]

theorem isFixed_requested (host sender recipient : Bytes)
    : (requested host sender recipient).IsFixed where
  method := by simp [requested, str]
  version := by simp [requested, str]
  names := by simp [requested, str]

theorem isTarget_requested_iff {host sender recipient : Bytes}
    : Request.IsTarget (requested host sender recipient).line.target
        ↔
      (32 ∉ recipient ∧ ¬ crlf <:+: recipient) ∧ (32 ∉ host ∧ ¬ crlf <:+: host) := by
  have hfront : 13 ∉ str "sip:" := by decide
  have hbreak := crlf_isInfix_address hfront List.not_mem_nil recipient host
  rw [List.append_nil] at hbreak
  have hblank : 32 ∈ str "sip:" ++ recipient ++ str "@" ++ host ↔ 32 ∈ recipient ∨ 32 ∈ host := by
    simp [str]
  constructor
  . rintro ⟨-, hnot, hunbroken⟩
    rw [requested, hblank, not_or] at hnot
    rw [requested, hbreak, not_or] at hunbroken
    exact ⟨⟨hnot.1, hunbroken.1⟩, ⟨hnot.2, hunbroken.2⟩⟩
  . rintro ⟨hrecipient, hhost⟩
    refine ⟨by simp [requested, str], ?_, ?_⟩
    . rw [requested, hblank, not_or]
      exact ⟨hrecipient.1, hhost.1⟩
    . rw [requested, hbreak, not_or]
      exact ⟨hrecipient.2, hhost.2⟩

/-- The server reads the `OPTIONS` request the check is to make, for exactly the names that neither
break a line nor end the target: the sender is in no target. -/
theorem request_read_iff (host sender recipient : Bytes)
    : Request.read (request host sender recipient) = some (requested host sender recipient, [])
        ↔
      (32 ∉ recipient ∧ ¬ crlf <:+: recipient)
        ∧
      (32 ∉ host ∧ ¬ crlf <:+: host)
        ∧
      ¬ crlf <:+: sender := by
  have hvia : crlf <:+: str " SIP/2.0/UDP " ++ host ++ str ";branch=z9hG4bK776asdhds"
      ↔ crlf <:+: host := by
    rw [crlf_isInfix_append_right (by decide), crlf_isInfix_append_left (by decide)]
  have hcall : crlf <:+: str " test@" ++ host ↔ crlf <:+: host :=
    crlf_isInfix_append_left (by decide)
  have hfront : 13 ∉ str " <sip:" := by decide
  have htag : 10 ∉ str ">;tag=1928301774" := by decide
  have hend : 10 ∉ str ">" := by decide
  have hconstant : ¬ crlf <:+: str " 1 OPTIONS" ∧ ¬ crlf <:+: str " 0" := by decide +kernel
  rw [request_eq_text, (isFixed_requested _ _ _).read_text_iff, isTarget_requested_iff, requested]
  simp only [List.forall_mem_cons, hvia, hcall,
    crlf_isInfix_address hfront htag, crlf_isInfix_address hfront hend]
  constructor
  . rintro ⟨⟨hrecipient, hhost⟩, -, hsender, -⟩
    exact ⟨hrecipient, hhost, fun hbreak => hsender (.inl hbreak)⟩
  . rintro ⟨hrecipient, hhost, hsender⟩
    refine ⟨⟨hrecipient, hhost⟩, hhost.2, not_or.mpr ⟨hsender, hhost.2⟩,
      not_or.mpr ⟨hrecipient.2, hhost.2⟩, hhost.2, hconstant.1, not_or.mpr ⟨hsender, hhost.2⟩,
      hconstant.2, by simp⟩

end SipPlugin

end NetmonPlugins

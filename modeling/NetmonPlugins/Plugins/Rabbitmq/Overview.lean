import NetmonPlugins.Common.HttpApi.Response
import NetmonPlugins.Common.JsonUtils.Front
import NetmonPlugins.Common.Thresholds
import NetmonPlugins.Plugins.Rabbitmq.Impl

/-!
This module determines which overviews have their object totals reported right.
-/

namespace NetmonPlugins
namespace RabbitmqPlugin

open Json

def countKeys : List Bytes :=
  [str "queues", str "exchanges", str "connections", str "channels"]

def overview (count : Bytes → Int) : PluginResult where
  code := .ok
  message := str "RabbitMQ OK - " ++ intDec (count (str "queues")) ++ str " queues, "
    ++ intDec (count (str "exchanges")) ++ str " exchanges, "
    ++ intDec (count (str "connections")) ++ str " connections"
  perfdata := str "queues=" ++ intDec (count (str "queues")) ++ str " exchanges="
    ++ intDec (count (str "exchanges")) ++ str " connections="
    ++ intDec (count (str "connections")) ++ str " channels=" ++ intDec (count (str "channels"))

/-- The member `object_totals` is an object that holds these numbers, possibly among others. -/
def HoldsTotals (document : Document) (totals : Bytes → Decimal) : Prop :=
  ∃ name object, (name, object) ∈ document.value.ownMembers ∧ name.bytes = str "object_totals"
    ∧ object.isObject = true
    ∧ ∀ key ∈ countKeys, ∃ name' atom, (name', Node.literal atom) ∈ object.ownMembers
      ∧ name'.bytes = key ∧ atom.bytes = (totals key).text

def Reports (result : PluginResult) (totals : Bytes → Decimal) : Prop :=
  ∃ count : Bytes → Int, result = overview count
    ∧ ∀ key ∈ countKeys, (count key : ℚ) = (totals key).value

/-- What the lookup takes for the totals: the first member of this name at any depth, unless some
member of this name is a string. -/
def foundTotals (document : Document) : Option ValueNode :=
  if document.value.firstNamed (str "object_totals") Node.isFilled = none then
    document.value.firstNamed (str "object_totals") (fun _ => true)
  else
    none

/-- The member of this name that stands in front of the first comma or closing brace of the totals
has this number, or there is no such member and the number is zero. -/
def FrontShows (document : Document) (key : Bytes) (number : Decimal) : Prop :=
  match (foundTotals document).bind (Node.frontMember key) with
  | none => number.value = 0
  | some member => ((numberOf member.shownText).toInt : ℚ) = number.value

theorem mem_countKeys_iff (key : Bytes)
    : key ∈ countKeys ↔ key = str "queues" ∨ key = str "exchanges" ∨ key = str "connections"
      ∨ key = str "channels" := by
  simp [countKeys]

theorem overview_congr {count count' : Bytes → Int} (h : ∀ key ∈ countKeys, count key = count' key)
    : overview count = overview count' := by
  unfold overview
  rw [h _ (by decide), h _ (by decide), h _ (by decide), h _ (by decide)]

theorem overview_inj {count count' : Bytes → Int} (h : overview count = overview count')
    : ∀ key ∈ countKeys, count key = count' key := by
  have hperfdata := congrArg PluginResult.perfdata h
  unfold overview at hperfdata
  simp only [List.append_assoc] at hperfdata
  obtain ⟨hqueues, hrest⟩ := Published.intDec_append_inj (List.append_cancel_left hperfdata)
    (by simp [str, isDigit]) (by simp [str, isDigit])
  obtain ⟨hexchanges, hrest⟩ := Published.intDec_append_inj (List.append_cancel_left hrest)
    (by simp [str, isDigit]) (by simp [str, isDigit])
  obtain ⟨hconnections, hrest⟩ := Published.intDec_append_inj (List.append_cancel_left hrest)
    (by simp [str, isDigit]) (by simp [str, isDigit])
  have hchannels := List.append_cancel_left hrest
  rw [← List.append_nil (intDec (count _)), ← List.append_nil (intDec (count' _))] at hchannels
  obtain ⟨hchannels, _⟩ := Published.intDec_append_inj hchannels (by simp) (by simp)
  intro key hkey
  obtain rfl | rfl | rfl | rfl := (mem_countKeys_iff key).mp hkey
  . exact hqueues
  . exact hexchanges
  . exact hconnections
  . exact hchannels

theorem isIdentifier_of_mem {key : Bytes} (hkey : key ∈ countKeys) : IsIdentifier key := by
  obtain rfl | rfl | rfl | rfl := (mem_countKeys_iff key).mp hkey
  . decide
  . decide
  . decide
  . decide

theorem extractJsonNumber_totals (document : Document) {key : Bytes} (hkey : key ∈ countKeys)
    : extractJsonNumber (extractJsonNestedValue document.text (str "object_totals")) key
        =
      numberOf (((foundTotals document).bind (Node.frontMember key)).elim [] Node.shownText) := by
  have hidentifier := isIdentifier_of_mem hkey
  have htotals : IsIdentifier (str "object_totals") := by decide
  rw [extractJsonNestedValue_of_key (by decide)]
  unfold foundTotals
  cases hfilled : document.value.firstNamed (str "object_totals") Node.isFilled with
  | some value =>
    obtain ⟨_, _, _, hkind⟩ := Node.exists_of_firstNamed hfilled
    cases value with
    | string raw =>
      rw [extractJsonValue_of_filled htotals hfilled, if_neg (by simp),
        extractJsonNumber_of_notMem hidentifier (quote_notMem_visible raw)]
      rfl
    | literal atom => contradiction
    | array elements close => contradiction
    | object members close => contradiction
  | none =>
    rw [if_pos rfl]
    cases hfirst : document.value.firstNamed (str "object_totals") (fun _ => true) with
    | none =>
      rw [Node.firstNamed_eq_none_iff] at hfirst
      rw [extractJsonValue_of_none htotals, extractJsonNumber_of_notMem hidentifier (by simp)]
      . rfl
      . intro m hm hreads
        have hfalse := hfirst m hm hreads
        contradiction
    | some value =>
      obtain ⟨c, s, htext, _, hspace, _⟩ := head_of_text value
      rw [extractJsonValue_of_bare htotals hfilled hfirst, trim_takeWhile_eq_cutoff,
        extractJsonNumber_front hidentifier, Option.bind_some]
      intro b hb
      rw [htext, List.head?_cons, Option.mem_some] at hb
      rw [← hb]
      exact isTrimmed_of_isSpace_eq_false hspace

theorem check_overview_of_answer {sslEnabled : Bool} {server : Server} {config : Config}
    {document : Document} (hhost : config.hostname ≠ []) (hqueue : config.queueName = [])
    (hanswer : httpGetAuth sslEnabled server config.hostname config.port (str "/api/overview") false
      config.timeoutSeconds config.username config.password = .ok (200, document.text))
    : check sslEnabled server config
        =
      overview fun key =>
        (numberOf (((foundTotals document).bind (Node.frontMember key)).elim [] Node.shownText)).toInt
      := by
  have hpath : apiPath config.queueName = str "/api/overview" := by
    rw [hqueue]
    rfl
  have hok : ¬ ((200 : Int) ≠ 200 ∨ document.text = []) := by
    simp [document.text_ne_nil]
  unfold check
  rw [if_neg hhost, hpath, hanswer]
  dsimp only
  rw [if_neg hok, if_neg (by simp [hqueue])]
  unfold checkOverview overview
  dsimp only
  rw [extractJsonNumber_totals document (by decide), extractJsonNumber_totals document (by decide),
    extractJsonNumber_totals document (by decide), extractJsonNumber_totals document (by decide)]

theorem check_overview_reports_iff (sslEnabled : Bool) (server : Server) (config : Config)
    (document : Document) (totals : Bytes → Decimal) (hhost : config.hostname ≠ [])
    (hqueue : config.queueName = [])
    (hanswer : httpGetAuth sslEnabled server config.hostname config.port (str "/api/overview") false
      config.timeoutSeconds config.username config.password = .ok (200, document.text))
    (_hholds : HoldsTotals document totals)
    : Reports (check sslEnabled server config) totals
        ↔
      ∀ key ∈ countKeys, FrontShows document key (totals key) := by
  have hshows : ∀ key, FrontShows document key (totals key)
      ↔ (((numberOf (((foundTotals document).bind (Node.frontMember key)).elim []
        Node.shownText)).toInt : Int) : ℚ) = (totals key).value := by
    intro key
    unfold FrontShows
    cases (foundTotals document).bind (Node.frontMember key) with
    | none =>
      have hzero : (numberOf []).toInt = 0 := by decide +kernel
      rw [Option.elim_none, hzero, Int.cast_zero]
      exact eq_comm
    | some member => rfl
  simp only [hshows]
  rw [check_overview_of_answer hhost hqueue hanswer]
  constructor
  . rintro ⟨count, hresult, hcount⟩ key hkey
    rw [← hcount key hkey, ← overview_inj hresult key hkey]
  . intro h
    exact ⟨_, rfl, h⟩

def natNumber (n : Nat) : Decimal where
  sign := none
  whole := natDec n
  fraction := none
  exponent := none
  digits_ne_nil := by simp [natDec_ne_nil]
  isDigit_whole := fun _ hc => isDigit_of_mem_natDec hc
  isDigit_fraction := by simp

theorem value_natNumber (n : Nat) : (natNumber n).value = n := by
  simp [natNumber, Decimal.value, Decimal.magnitude, digitsValue_natDec]

def natLiteral (n : Nat) : Literal where
  bytes := natDec n
  ne_nil := natDec_ne_nil n
  plain := by
    intro c hc
    have hdigit := isDigit_of_mem_natDec hc
    unfold isDigit at hdigit
    unfold isLiteralByte
    grind

def overviewDocument (channels queues exchanges connections : Nat) : Document where
  value := .object
    (.member {} {} ⟨str "object_totals", by decide⟩ {} {}
      (.object
        (.member {} {} ⟨str "channels", by decide⟩ {} {} (.literal (natLiteral channels))
          (.member {} {} ⟨str "queues", by decide⟩ {} {} (.literal (natLiteral queues))
            (.member {} {} ⟨str "exchanges", by decide⟩ {} {} (.literal (natLiteral exchanges))
              (.member {} {} ⟨str "connections", by decide⟩ {} {}
                (.literal (natLiteral connections)) .noMembers)))) {}) .noMembers) {}

def natTotals (channels queues exchanges connections : Nat) (key : Bytes) : Decimal :=
  natNumber
    (if key = str "channels" then channels
    else if key = str "queues" then queues
    else if key = str "exchanges" then exchanges
    else connections)

theorem text_natNumber (n : Nat) : (natNumber n).text = natDec n := by
  simp [natNumber, Decimal.text, signText, Decimal.unsignedText, Decimal.fractionText,
    Decimal.exponentText]

theorem holdsTotals_overviewDocument (channels queues exchanges connections : Nat)
    : HoldsTotals (overviewDocument channels queues exchanges connections)
        (natTotals channels queues exchanges connections) := by
  refine ⟨_, _, List.mem_singleton_self _, rfl, rfl, ?_⟩
  intro key hkey
  obtain rfl | rfl | rfl | rfl := (mem_countKeys_iff key).mp hkey
  . exact ⟨_, natLiteral queues, .tail _ (.head _), rfl, (text_natNumber queues).symm⟩
  . exact ⟨_, natLiteral exchanges, .tail _ (.tail _ (.head _)), rfl,
      (text_natNumber exchanges).symm⟩
  . exact ⟨_, natLiteral connections, .tail _ (.tail _ (.tail _ (.head _))), rfl,
      (text_natNumber connections).symm⟩
  . exact ⟨_, natLiteral channels, .head _, rfl, (text_natNumber channels).symm⟩

theorem frontMember_overviewDocument (channels queues exchanges connections : Nat) {key : Bytes}
    (hkey : key ∈ countKeys)
    : (foundTotals (overviewDocument channels queues exchanges connections)).bind
          (Node.frontMember key)
        =
      if key = str "channels" then some (.literal (natLiteral channels)) else none := by
  obtain rfl | rfl | rfl | rfl := (mem_countKeys_iff key).mp hkey
  . rfl
  . rfl
  . rfl
  . rfl

def rabbit : Config where
  hostname := str "rabbit"

theorem reports_channels
    : Reports (check true (serving (overviewDocument 7 0 0 0).text (by decide +kernel)) rabbit)
        (natTotals 7 0 0 0) := by
  apply (check_overview_reports_iff true _ rabbit (overviewDocument 7 0 0 0) (natTotals 7 0 0 0)
    (by decide) rfl (httpGetAuth_serving _ _ _ _ _ _ _ _ _ _ (by decide +kernel))
    (holdsTotals_overviewDocument 7 0 0 0)).mpr
  intro key hkey
  unfold FrontShows
  rw [frontMember_overviewDocument 7 0 0 0 hkey]
  obtain rfl | rfl | rfl | rfl := (mem_countKeys_iff key).mp hkey
  . exact value_natNumber 0
  . exact value_natNumber 0
  . exact value_natNumber 0
  . show ((numberOf (natDec 7)).toInt : ℚ) = (natNumber 7).value
    have hseven : (numberOf (natDec 7)).toInt = 7 := by decide +kernel
    rw [hseven, value_natNumber]
    rfl

/-- Only the count that comes first is reported. -/
theorem not_reports_queues
    : HoldsTotals (overviewDocument 1 5 2 3) (natTotals 1 5 2 3)
        ∧
      check true (serving (overviewDocument 1 5 2 3).text (by decide +kernel)) rabbit
          =
        overview (fun key => if key = str "channels" then 1 else 0)
        ∧
      ¬ Reports (check true (serving (overviewDocument 1 5 2 3).text (by decide +kernel)) rabbit)
          (natTotals 1 5 2 3) := by
  have hcheck : check true (serving (overviewDocument 1 5 2 3).text (by decide +kernel)) rabbit
      = overview (fun key => if key = str "channels" then 1 else 0) := by
    rw [check_overview_of_answer (by decide) rfl
      (httpGetAuth_serving _ _ _ _ _ _ _ _ _ _ (by decide +kernel))]
    apply overview_congr
    intro key hkey
    rw [frontMember_overviewDocument 1 5 2 3 hkey]
    split
    . show (numberOf (natDec 1)).toInt = 1
      decide +kernel
    . show (numberOf []).toInt = 0
      decide +kernel
  refine ⟨holdsTotals_overviewDocument 1 5 2 3, hcheck, ?_⟩
  rintro ⟨count, hresult, hcount⟩
  rw [hcheck] at hresult
  have hqueues := hcount (str "queues") (by decide)
  rw [← overview_inj hresult (str "queues") (by decide)] at hqueues
  have hvalue : (natTotals 1 5 2 3 (str "queues")).value = 5 := value_natNumber 5
  rw [hvalue] at hqueues
  revert hqueues
  decide +kernel

end RabbitmqPlugin
end NetmonPlugins

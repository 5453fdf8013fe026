import NetmonPlugins.Common.HttpApi.Response
import NetmonPlugins.Cxx.Digits
import NetmonPlugins.Plugins.Kubernetes.Scan

/-!
This module determines which list responses have their items counted right.
-/

namespace NetmonPlugins
namespace KubernetesPlugin

open Json

/-- An object with a list of items among its members. -/
structure ListResponse where
  lead : Blank := {}
  before : Node .members := .noMembers
  comma : Blank := {}
  nameLead : Blank := {}
  colon : Blank := {}
  space : Blank := {}
  items : Node .elements
  itemsClose : Blank := {}
  after : Node .members := .noMembers
  close : Blank := {}
  trail : Blank := {}
  isObject : ∀ item ∈ items.values, item.isObject = true
  noBraces : ∀ raw ∈ items.strings, (123 : UInt8) ∉ raw.bytes ∧ (125 : UInt8) ∉ raw.bytes

namespace ListResponse

def document (response : ListResponse) : Document where
  lead := response.lead
  value :=
    .object
      (response.before.append
        (.member response.comma response.nameLead ⟨str "items", by decide⟩ response.colon
          response.space (.array response.items response.itemsClose) response.after))
      response.close
  trail := response.trail

/-- The text in front of the bracket that opens the list. -/
def front (response : ListResponse) : Bytes :=
  response.lead.bytes
    ++ (123 :: (response.before.text true
      ++ (response.comma.separator response.before.entries.isEmpty
        ++ (response.nameLead.bytes
          ++ (quoted (str "items") ++ (response.colon.bytes ++ (58 :: response.space.bytes)))))))

def inner (response : ListResponse) : Bytes :=
  response.items.text true ++ response.itemsClose.bytes

/-- The text behind the bracket that closes the list. -/
def behind (response : ListResponse) : Bytes :=
  response.after.text false ++ (response.close.bytes ++ (125 :: response.trail.bytes))

theorem text_eq (response : ListResponse)
    : response.document.text
        =
      response.front ++ 91 :: (response.inner ++ 93 :: response.behind) := by
  unfold Document.text document
  rw [Node.text, Node.text_append, Node.text, Node.text, Bool.true_and]
  simp [front, inner, behind]

end ListResponse

/-- The text from the first bracket on that follows the first quoted `items`. -/
def fromBracket (text : Bytes) : Bytes :=
  (text.drop ((find text (quoted (str "items")) 0).getD text.length)).dropWhile (· ≠ 91)

/-- Without a bracket between the first quoted `items` and the list, the brackets of the list do not
touch or no item ends behind them. With one, as many items end behind it. -/
def ListResponse.IsCounted (response : ListResponse) : Prop :=
  match fromBracket response.front with
  | [] => response.inner ≠ [] ∨ itemEnds (93 :: response.behind) = 0
  | _ :: text =>
    itemEnds (text ++ 91 :: (response.inner ++ 93 :: response.behind))
      = response.items.values.length

theorem itemsIn_of_fromBracket {text after : Bytes} {b : UInt8}
    (h : fromBracket text = b :: after)
    : itemsIn text = countItems 0 0 after := by
  have hkey : str "\"items\"" = quoted (str "items") := rfl
  unfold fromBracket at h
  unfold itemsIn
  rw [hkey]
  cases hfind : find text (quoted (str "items")) 0 with
  | none =>
    rw [hfind, Option.getD_none, List.drop_length] at h
    contradiction
  | some itemsPos =>
    rw [hfind, Option.getD_some] at h
    obtain ⟨arrayStart, hbracket, hdrop⟩ := exists_find_singleton h
    have hpat : str "[" = [91] := rfl
    dsimp only
    rw [hpat, hbracket]
    dsimp only
    rw [hdrop]

theorem fromBracket_append {front : Bytes} (h : quoted (str "items") <:+: front) (rest : Bytes)
    : fromBracket (front ++ 91 :: rest) = fromBracket front ++ 91 :: rest := by
  obtain ⟨itemsPos, hfind⟩ := Option.isSome_iff_exists.mp ((contains_iff_isInfix _ _).mpr h)
  have hpos := ((find_eq_some_iff _ _ _ _).mp hfind).2.1
  unfold fromBracket
  rw [find_append_of_some hfind, hfind, Option.getD_some, Option.getD_some,
    List.drop_append_of_le_length hpos, List.dropWhile_append]
  split
  . next hnil =>
    rw [List.isEmpty_iff.mp hnil]
    simp
  . rfl

namespace ListResponse

theorem resume_inner (response : ListResponse)
    : resume 0 0 (response.inner ++ 93 :: response.behind) = response.items.values.length := by
  have hnested : ∀ raw ∈ response.items.strings, IsNested raw.bytes := by
    intro raw hraw
    obtain ⟨hopen, hclose⟩ := response.noBraces raw hraw
    exact isNested_of_notMem hopen hclose
  unfold inner
  rw [List.append_assoc, resume_elements 0 _ true response.isObject hnested, resume_blank,
    resume_closing, Nat.zero_add]

theorem countItems_of_ne_nil (response : ListResponse) (h : response.inner ≠ [])
    : countItems 0 0 (response.inner ++ 93 :: response.behind) = response.items.values.length := by
  have hcount := response.resume_inner
  by_cases hhead : (response.inner ++ 93 :: response.behind).head? = some 93
  . unfold resume at hcount
    rw [if_pos ⟨hhead, rfl⟩] at hcount
    have hitems : response.items.text true = [] := by
      cases hitems : response.items with
      | noElements => rfl
      | element comma lead head tail => simp [hitems, Node.values] at hcount
    unfold inner at h hhead
    rw [hitems, List.nil_append] at h hhead
    rw [List.head?_append_of_ne_nil _ h] at hhead
    exact absurd (response.itemsClose.blank _ (List.mem_of_mem_head? hhead)) (by decide)
  . rw [← hcount, resume_of_head hhead]

theorem countItems_of_nil (response : ListResponse) (h : response.inner = [])
    : response.items.values.length = 0 := by
  rw [← resume_inner, h, List.nil_append, resume_closing]

theorem itemsIn_eq_length_iff (response : ListResponse)
    : itemsIn response.document.text = response.items.values.length ↔ response.IsCounted := by
  have hinfix : quoted (str "items") <:+: response.front := by
    refine ⟨response.lead.bytes ++ (123 :: (response.before.text true
      ++ (response.comma.separator response.before.entries.isEmpty ++ response.nameLead.bytes))),
      response.colon.bytes ++ (58 :: response.space.bytes), ?_⟩
    simp [front]
  have hbracket := fromBracket_append hinfix (response.inner ++ 93 :: response.behind)
  rw [text_eq]
  unfold IsCounted
  cases hearlier : fromBracket response.front with
  | cons b text =>
    rw [hearlier, List.cons_append] at hbracket
    rw [itemsIn_of_fromBracket hbracket, countItems_eq_itemEnds]
  | nil =>
    rw [hearlier, List.nil_append] at hbracket
    rw [itemsIn_of_fromBracket hbracket]
    by_cases hinner : response.inner = []
    . rw [hinner, List.nil_append, countItems_eq_itemEnds, response.countItems_of_nil hinner]
      simp
    . simp [response.countItems_of_ne_nil hinner, hinner]

end ListResponse

def listing (checkType kind : Bytes) (count : Nat) : PluginResult where
  code := .ok
  message := str "Kubernetes OK - " ++ kind ++ str " API responding"
    ++ (if count > 0 then str " (" ++ natDec count ++ str " " ++ checkType ++ str ")" else [])
  perfdata := checkType ++ str "=" ++ natDec count

theorem listing_inj {checkType kind : Bytes} {count count' : Nat}
    (h : listing checkType kind count = listing checkType kind count')
    : count = count' := by
  have hperfdata := congrArg PluginResult.perfdata h
  exact natDec_inj (List.append_cancel_left hperfdata)

@[simp]
theorem withAvailableSsl_hostname (sslEnabled : Bool) (config : Config)
    : (config.withAvailableSsl sslEnabled).hostname = config.hostname := by
  unfold Config.withAvailableSsl
  split
  . rfl
  . rfl

@[simp]
theorem withAvailableSsl_checkType (sslEnabled : Bool) (config : Config)
    : (config.withAvailableSsl sslEnabled).checkType = config.checkType := by
  unfold Config.withAvailableSsl
  split
  . rfl
  . rfl

theorem check_eq_listing_iff (sslEnabled : Bool) (server : Server) (config : Config)
    (response : ListResponse) (hhost : config.hostname ≠ [])
    (htype : config.checkType = str "nodes" ∨ config.checkType = str "pods")
    (hanswer : httpGet sslEnabled server config.hostname (config.withAvailableSsl sslEnabled).port
      (apiPath config.checkType) (config.withAvailableSsl sslEnabled).useSSL
      (config.withAvailableSsl sslEnabled).timeoutSeconds = .ok (200, response.document.text))
    : check sslEnabled server config
          =
        listing config.checkType (extractJsonValue response.document.text (str "kind"))
          response.items.values.length
        ↔
      response.IsCounted := by
  have hok : ¬ ((200 : Int) = 0 ∨ response.document.text = []) := by
    simp [response.document.text_ne_nil]
  have hhealth : config.checkType ≠ str "health" := by
    rcases htype with htype | htype
    . rw [htype]
      decide
    . rw [htype]
      decide
  have hcheck : check sslEnabled server config
      = listing config.checkType (extractJsonValue response.document.text (str "kind"))
        (itemsIn response.document.text) := by
    unfold check
    rw [if_neg hhost]
    dsimp only
    rw [withAvailableSsl_hostname, withAvailableSsl_checkType, hanswer]
    dsimp only
    rw [if_neg hok, if_neg hhealth, if_pos htype]
    rfl
  rw [hcheck, ← response.itemsIn_eq_length_iff]
  constructor
  . exact listing_inj
  . rintro h
    rw [h]

def nodes : Config where
  hostname := str "kube"
  checkType := str "nodes"

def emptyObject : ValueNode := .object .noMembers {}

def nodeList (items : Node .elements) (isObject : ∀ item ∈ items.values, item.isObject = true)
    (hstrings : items.strings = []) : ListResponse where
  items := items
  after := .member {} {} ⟨str "metadata", by decide⟩ {} {} emptyObject .noMembers
  isObject := isObject
  noBraces := by simp [hstrings]

def twoNodes : ListResponse :=
  nodeList (.element {} {} emptyObject (.element {} {} emptyObject .noElements)) (by decide) rfl

def noNodes : ListResponse := nodeList .noElements (by decide) rfl

theorem check_twoNodes
    : check true (serving twoNodes.document.text (by decide +kernel)) nodes
        =
      listing (str "nodes") [] 2 := by
  have hkind : extractJsonValue twoNodes.document.text (str "kind") = [] := by decide +kernel
  rw [← hkind]
  apply (check_eq_listing_iff true (serving twoNodes.document.text (by decide +kernel)) nodes
    twoNodes (by decide) (.inl rfl)
    (httpGetAuth_serving _ _ _ _ _ _ _ _ _ _ (by decide +kernel))).mpr
  exact .inl (by decide)

/-- The object behind an empty list counts as a node. -/
theorem check_noNodes
    : noNodes.items.values = []
        ∧
      noNodes.document.text = str "\x7b\"items\":[],\"metadata\":\x7b\x7d\x7d"
        ∧
      check true (serving noNodes.document.text (by decide +kernel)) nodes
          =
        listing (str "nodes") [] 1
        ∧
      check true (serving noNodes.document.text (by decide +kernel)) nodes
          ≠
        listing (str "nodes") [] 0 := by
  have hcheck : check true (serving noNodes.document.text (by decide +kernel)) nodes
      = listing (str "nodes") [] 1 := by
    decide +kernel
  refine ⟨rfl, by decide, hcheck, ?_⟩
  rw [hcheck]
  intro hlisting
  exact absurd (listing_inj hlisting) (by decide)

end KubernetesPlugin
end NetmonPlugins

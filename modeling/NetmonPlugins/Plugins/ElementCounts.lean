import NetmonPlugins.Common.HttpApi.Response
import NetmonPlugins.Common.JsonUtils.Count
import NetmonPlugins.Cxx.Digits
import NetmonPlugins.Plugins.Couchbase.Impl
import NetmonPlugins.Plugins.Etcd.Impl
import NetmonPlugins.Plugins.Nomad.Impl

/-!
This module determines when the checks that count the objects of a response by a quoted key count
them right.
-/

namespace NetmonPlugins

open Json

inductive Layout where
  | list
  | values

/-- The objects of a response and the strings around them. -/
inductive Holds : Layout → ValueNode → List ValueNode → List Raw → Prop where
  | list {value : ValueNode} {elements : Node .elements} (h : value.lists = [elements])
    : Holds .list value elements.values value.outside
  | values (members : Node .members) (close : Blank)
    : Holds .values (.object members close) (members.entries.map (·.2)) (members.entries.map (·.1))

structure IsElement (key : Bytes) (object : ValueNode) : Prop where
  isObject : object.isObject = true
  once : object.ownMembers.countP (·.1.bytes = key) = 1

/-- No string but the names that are counted reads the key. -/
structure NamesOnly (key : Bytes) (objects : List ValueNode) (outer : List Raw) : Prop where
  names : ∀ object ∈ objects, ∀ m ∈ object.ownMembers, m.1.bytes ≠ key → ¬ m.1.Reads key
  values : ∀ object ∈ objects, ∀ m ∈ object.ownMembers, ∀ raw ∈ m.2.strings, ¬ raw.Reads key
  outer : ∀ raw ∈ outer, ¬ raw.Reads key

/-- One run of a check that counts objects. -/
inductive ElementCheck where
  | consulMembers (config : ConsulPlugin.Config)
  | consulServices (config : ConsulPlugin.Config)
  | nomadJobs (config : NomadPlugin.Config)
  | nomadNodes (config : NomadPlugin.Config)
  | couchbaseNodes (config : CouchbasePlugin.Config)
  | etcdMembers (config : EtcdPlugin.Config)

namespace ElementCheck

def result (sslEnabled : Bool) (server : Server) : ElementCheck → PluginResult
  | consulMembers config =>
    ConsulPlugin.check sslEnabled server { config with checkType := str "members" }
  | consulServices config =>
    ConsulPlugin.check sslEnabled server { config with checkType := str "services" }
  | nomadJobs config =>
    NomadPlugin.check sslEnabled server { config with checkType := str "jobs" }
  | nomadNodes config =>
    NomadPlugin.check sslEnabled server { config with checkType := str "nodes" }
  | couchbaseNodes config =>
    CouchbasePlugin.check sslEnabled server { config with checkType := str "nodes" }
  | etcdMembers config =>
    EtcdPlugin.check sslEnabled server { config with checkType := str "members" }

def hostname : ElementCheck → Bytes
  | consulMembers config => config.hostname
  | consulServices config => config.hostname
  | nomadJobs config => config.hostname
  | nomadNodes config => config.hostname
  | couchbaseNodes config => config.hostname
  | etcdMembers config => config.hostname

def answer (sslEnabled : Bool) (server : Server) : ElementCheck → Except StdException (Int × Bytes)
  | consulMembers config =>
    httpGet sslEnabled server config.hostname config.port (ConsulPlugin.apiPath (str "members"))
      false config.timeoutSeconds
  | consulServices config =>
    httpGet sslEnabled server config.hostname config.port (ConsulPlugin.apiPath (str "services"))
      false config.timeoutSeconds
  | nomadJobs config =>
    httpGet sslEnabled server config.hostname config.port (NomadPlugin.apiPath (str "jobs"))
      false config.timeoutSeconds
  | nomadNodes config =>
    httpGet sslEnabled server config.hostname config.port (NomadPlugin.apiPath (str "nodes"))
      false config.timeoutSeconds
  | couchbaseNodes config =>
    httpGetAuth sslEnabled server config.hostname config.port
      (CouchbasePlugin.apiPath (str "nodes")) false config.timeoutSeconds config.username
      config.password
  | etcdMembers config =>
    httpGet sslEnabled server config.hostname config.port (EtcdPlugin.apiPath (str "members"))
      false config.timeoutSeconds

def key : ElementCheck → Bytes
  | consulMembers _ => str "Name"
  | consulServices _ => str "ID"
  | nomadJobs _ => str "ID"
  | nomadNodes _ => str "ID"
  | couchbaseNodes _ => str "hostname"
  | etcdMembers _ => str "id"

def layout : ElementCheck → Layout
  | consulServices _ => .values
  | _ => .list

def reporting (count : Nat) : ElementCheck → PluginResult
  | consulMembers _ =>
    { code := .ok
      message := str "Consul OK - " ++ natDec count ++ str " cluster members"
      perfdata := str "members=" ++ natDec count }
  | consulServices _ =>
    { code := .ok
      message := str "Consul OK - " ++ natDec count ++ str " services registered"
      perfdata := str "services=" ++ natDec count }
  | nomadJobs _ =>
    { code := .ok
      message := str "Nomad OK - " ++ natDec count ++ str " jobs"
      perfdata := str "jobs=" ++ natDec count }
  | nomadNodes _ =>
    { code := .ok
      message := str "Nomad OK - " ++ natDec count ++ str " nodes"
      perfdata := str "nodes=" ++ natDec count }
  | couchbaseNodes _ =>
    { code := .ok
      message := str "Couchbase OK - " ++ natDec count ++ str " nodes available"
      perfdata := str "nodes=" ++ natDec count }
  | etcdMembers _ =>
    { code := .ok
      message := str "etcd OK - " ++ natDec count ++ str " cluster members"
      perfdata := str "members=" ++ natDec count }

end ElementCheck

section

variable {key : Bytes} {objects : List ValueNode} {outer : List Raw}

theorem Holds.countP_strings {layout : Layout} {value : ValueNode}
    (h : Holds layout value objects outer) (p : Raw → Bool)
    : value.strings.countP p = (objects.map (·.strings.countP p)).sum + outer.countP p := by
  cases h with
  | list h =>
    rw [Node.countP_strings, h, List.flatMap_singleton, Node.strings_elements, List.countP_flatMap,
      Nat.add_comm]
    rfl
  | values members close =>
    rw [Node.strings, Node.strings_members]
    induction members.entries with
    | nil => rfl
    | cons m entries ih =>
      simp only [List.flatMap_cons, List.countP_append, List.countP_cons, List.map_cons,
        List.sum_cons, ih]
      omega

/-- The strings of an object that are counted besides the name. -/
def surplus (key : Bytes) (object : ValueNode) : Nat :=
  object.ownMembers.countP (fun m => m.1.bytes ≠ key ∧ m.1.Reads key)
    + (object.ownMembers.flatMap (·.2.strings)).countP (·.Reads key)

theorem IsElement.countP_strings {object : ValueNode} (h : IsElement key object)
    : object.strings.countP (·.Reads key) = 1 + surplus key object := by
  have hself : ∀ m : Raw × ValueNode, m.1.bytes = key → m.1.Reads key := by
    intro m hm
    unfold Raw.Reads
    rw [hm]
  have hmembers : ∀ members : List (Raw × ValueNode),
      (members.flatMap fun m => m.1 :: m.2.strings).countP (·.Reads key)
        = members.countP (·.1.bytes = key)
          + (members.countP (fun m => m.1.bytes ≠ key ∧ m.1.Reads key)
            + (members.flatMap (·.2.strings)).countP (·.Reads key)) := by
    intro members
    induction members with
    | nil => rfl
    | cons m members ih =>
      simp only [List.flatMap_cons, List.countP_append, List.countP_cons, ih, decide_eq_true_eq]
      by_cases hname : m.1.bytes = key
      . simp [hname, hself m hname]
        omega
      . simp [hname]
        omega
  rw [Node.strings_of_isObject h.isObject, hmembers, h.once]
  rfl

theorem surplus_eq_zero_iff (object : ValueNode)
    : surplus key object = 0
        ↔
      (∀ m ∈ object.ownMembers, m.1.bytes ≠ key → ¬ m.1.Reads key)
        ∧ ∀ m ∈ object.ownMembers, ∀ raw ∈ m.2.strings, ¬ raw.Reads key := by
  unfold surplus
  rw [Nat.add_eq_zero_iff, List.countP_eq_zero, List.countP_eq_zero]
  simp only [List.mem_flatMap, decide_eq_true_eq, not_and, forall_exists_index, and_imp]
  constructor
  . rintro ⟨hnames, hvalues⟩
    exact ⟨hnames, fun m hm raw hraw => hvalues raw m hm hraw⟩
  . rintro ⟨hnames, hvalues⟩
    exact ⟨hnames, fun raw m hm hraw => hvalues m hm raw hraw⟩

theorem count_eq_length_iff (hobjects : ∀ object ∈ objects, IsElement key object)
    : (objects.map (·.strings.countP (·.Reads key))).sum + outer.countP (·.Reads key)
          = objects.length
        ↔
      NamesOnly key objects outer := by
  have hsum : (objects.map (·.strings.countP (·.Reads key))).sum
      = objects.length + (objects.map (surplus key)).sum := by
    rw [List.map_congr_left fun object hobject => (hobjects object hobject).countP_strings,
      List.sum_map_add]
    simp
  have hzero : (objects.map (surplus key)).sum = 0 ↔ ∀ object ∈ objects, surplus key object = 0 := by
    rw [List.sum_eq_zero_iff_forall_eq_nat]
    simp
  have houter : outer.countP (·.Reads key) = 0 ↔ ∀ raw ∈ outer, ¬ raw.Reads key := by
    rw [List.countP_eq_zero]
    simp
  have hcount : objects.length + (objects.map (surplus key)).sum + outer.countP (·.Reads key)
        = objects.length
      ↔
    (objects.map (surplus key)).sum = 0 ∧ outer.countP (·.Reads key) = 0 := by
    omega
  rw [hsum, hcount, hzero, houter]
  constructor
  . rintro ⟨hall, hnone⟩
    refine ⟨?_, ?_, hnone⟩
    . intro object hobject
      exact ((surplus_eq_zero_iff object).mp (hall object hobject)).1
    . intro object hobject
      exact ((surplus_eq_zero_iff object).mp (hall object hobject)).2
  . intro h
    refine ⟨?_, h.outer⟩
    intro object hobject
    exact (surplus_eq_zero_iff object).mpr ⟨h.names object hobject, h.values object hobject⟩

end

namespace ElementCheck

variable {sslEnabled : Bool} {server : Server} {run : ElementCheck}

theorem isIdentifier_key (run : ElementCheck) : IsIdentifier run.key := by
  have hname : IsIdentifier (str "Name") := by decide
  have hID : IsIdentifier (str "ID") := by decide
  have hhostname : IsIdentifier (str "hostname") := by decide
  have hid : IsIdentifier (str "id") := by decide
  cases run with
  | consulMembers config => exact hname
  | consulServices config => exact hID
  | nomadJobs config => exact hID
  | nomadNodes config => exact hID
  | couchbaseNodes config => exact hhostname
  | etcdMembers config => exact hid

theorem reporting_inj {count count' : Nat} (h : run.reporting count = run.reporting count')
    : count = count' := by
  have hperfdata := congrArg PluginResult.perfdata h
  cases run with
  | consulMembers config => exact natDec_inj (List.append_cancel_left hperfdata)
  | consulServices config => exact natDec_inj (List.append_cancel_left hperfdata)
  | nomadJobs config => exact natDec_inj (List.append_cancel_left hperfdata)
  | nomadNodes config => exact natDec_inj (List.append_cancel_left hperfdata)
  | couchbaseNodes config => exact natDec_inj (List.append_cancel_left hperfdata)
  | etcdMembers config => exact natDec_inj (List.append_cancel_left hperfdata)

theorem result_of_answer {body : Bytes} (hhost : run.hostname ≠ [])
    (hanswer : run.answer sslEnabled server = .ok (200, body)) (hbody : body ≠ [])
    : run.result sslEnabled server = run.reporting (countQuoted run.key body) := by
  have hok : ¬ ((200 : Int) ≠ 200 ∨ body = []) := by
    simp [hbody]
  have hreachable : ¬ ((200 : Int) = 0 ∨ body = []) := by
    simp [hbody]
  cases run with
  | consulMembers config =>
    change config.hostname ≠ [] at hhost
    change httpGet _ _ config.hostname _ _ _ _ = _ at hanswer
    unfold result ConsulPlugin.check
    dsimp only
    rw [if_neg hhost, hanswer]
    dsimp only
    rw [if_neg hok, if_neg (by decide), if_neg (by decide), if_pos rfl]
    rfl
  | consulServices config =>
    change config.hostname ≠ [] at hhost
    change httpGet _ _ config.hostname _ _ _ _ = _ at hanswer
    unfold result ConsulPlugin.check
    dsimp only
    rw [if_neg hhost, hanswer]
    dsimp only
    rw [if_neg hok, if_neg (by decide), if_neg (by decide), if_neg (by decide), if_pos rfl]
    rfl
  | nomadJobs config =>
    change config.hostname ≠ [] at hhost
    change httpGet _ _ config.hostname _ _ _ _ = _ at hanswer
    unfold result NomadPlugin.check
    dsimp only
    rw [if_neg hhost, hanswer]
    dsimp only
    rw [if_neg hok, if_neg (by decide), if_pos rfl]
    rfl
  | nomadNodes config =>
    change config.hostname ≠ [] at hhost
    change httpGet _ _ config.hostname _ _ _ _ = _ at hanswer
    unfold result NomadPlugin.check
    dsimp only
    rw [if_neg hhost, hanswer]
    dsimp only
    rw [if_neg hok, if_neg (by decide), if_neg (by decide), if_pos rfl]
    rfl
  | couchbaseNodes config =>
    change config.hostname ≠ [] at hhost
    change httpGetAuth _ _ config.hostname _ _ _ config.timeoutSeconds _ _ = _ at hanswer
    unfold result CouchbasePlugin.check
    dsimp only
    rw [if_neg hhost, hanswer]
    dsimp only
    rw [if_neg hok, if_neg (by decide), if_pos rfl]
    rfl
  | etcdMembers config =>
    change config.hostname ≠ [] at hhost
    change httpGet _ _ config.hostname _ _ _ _ = _ at hanswer
    unfold result EtcdPlugin.check
    dsimp only
    rw [if_neg hhost, hanswer]
    dsimp only
    rw [if_neg hreachable, if_neg (by decide), if_neg (by decide), if_pos rfl]
    rfl

/-- What a check reports is the number of all strings that read its key. -/
theorem result_eq_reporting {document : Document} (hhost : run.hostname ≠ [])
    (hanswer : run.answer sslEnabled server = .ok (200, document.text))
    : run.result sslEnabled server
        =
      run.reporting (document.value.strings.countP (·.Reads run.key)) := by
  rw [result_of_answer hhost hanswer document.text_ne_nil,
    countQuoted_document run.isIdentifier_key]

theorem result_eq_reporting_length_iff (sslEnabled : Bool) (server : Server) (run : ElementCheck)
    (document : Document) (objects : List ValueNode) (outer : List Raw)
    (hhost : run.hostname ≠ [])
    (hanswer : run.answer sslEnabled server = .ok (200, document.text))
    (hholds : Holds run.layout document.value objects outer)
    (hobjects : ∀ object ∈ objects, IsElement run.key object)
    : run.result sslEnabled server = run.reporting objects.length
        ↔
      NamesOnly run.key objects outer := by
  rw [result_eq_reporting hhost hanswer, hholds.countP_strings, ← count_eq_length_iff hobjects]
  constructor
  . exact reporting_inj
  . intro h
    rw [h]

def member (name : Raw) : ValueNode :=
  .object (.member {} {} ⟨str "Name", by decide⟩ {} {} (.string name) .noMembers) {}

def memberNamed (name : Raw) : Document where
  value := .array (.element {} {} (member name) .noElements) {}

theorem holds_memberNamed (name : Raw) : Holds .list (memberNamed name).value [member name] [] := by
  have hlists : (memberNamed name).value.lists = [.element {} {} (member name) .noElements] := rfl
  exact .list hlists

theorem isElement_member (name : Raw)
    : ∀ object ∈ [member name], IsElement (str "Name") object := by
  intro object hobject
  rw [List.mem_singleton.mp hobject]
  exact ⟨rfl, rfl⟩

def consul : ElementCheck := .consulMembers { hostname := str "consul" }

theorem answer_memberNamed (name : Raw)
    (h : (okEnvelope.text ++ (memberNamed name).text).length ≤ 8191)
    (hnul : (0 : UInt8) ∉ (memberNamed name).text)
    : consul.answer true (serving (memberNamed name).text h)
        =
      .ok (200, (memberNamed name).text) := by
  unfold consul answer httpGet
  apply httpGetAuth_serving
  exact hnul

def web : Raw := ⟨str "web", by decide⟩

theorem namesOnly_web : NamesOnly (str "Name") [member web] [] where
  names := by
    intro object hobject m hm hne
    rw [List.mem_singleton.mp hobject] at hm
    rw [List.mem_singleton.mp hm] at hne
    contradiction
  values := by
    intro object hobject m hm raw hraw
    rw [List.mem_singleton.mp hobject] at hm
    rw [List.mem_singleton.mp hm] at hraw
    rw [List.mem_singleton.mp hraw]
    decide
  outer := by
    intro raw hraw
    contradiction

theorem result_web
    : consul.result true (serving (memberNamed web).text (by decide)) = consul.reporting 1 :=
  (result_eq_reporting_length_iff true _ consul (memberNamed web) [member web] [] (by decide)
    (answer_memberNamed web _ (by decide)) (holds_memberNamed web)
    (isElement_member web)).mpr namesOnly_web

def keyed : Raw := ⟨str "Name", by decide⟩

/-- A node that has the counted key for its name counts twice. -/
theorem result_keyed
    : Holds .list (memberNamed keyed).value [member keyed] []
        ∧
      (∀ object ∈ [member keyed], IsElement (str "Name") object)
        ∧
      consul.result true (serving (memberNamed keyed).text (by decide)) = consul.reporting 2 := by
  refine ⟨holds_memberNamed keyed, isElement_member keyed, ?_⟩
  rw [result_eq_reporting (by decide) (answer_memberNamed keyed _ (by decide))]
  rfl

end ElementCheck

end NetmonPlugins

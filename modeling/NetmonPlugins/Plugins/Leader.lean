import NetmonPlugins.Common.HttpApi.Response
import NetmonPlugins.Common.JsonUtils.Lookup
import NetmonPlugins.Plugins.Nomad.Impl

/-!
This module determines when `check_consul` and `check_nomad` report the leader that a response
names: the quotes are cut off by position, so nothing may stand around them.
-/

namespace NetmonPlugins

open Json

/-- The content of a string without escapes. -/
structure LeaderName where
  bytes : Bytes
  plain : ∀ c ∈ bytes, c ≠ 34 ∧ c ≠ 92

def LeaderName.raw (name : LeaderName) : Raw := ⟨name.bytes, isEscaped_of_plain name.plain⟩

def leaderDocument (lead trail : Blank) (name : LeaderName) : Document where
  lead := lead
  value := .string name.raw
  trail := trail

/-- The result with the leader behind one text, or with another text where there is no leader. -/
def reportLeader (elected none : Bytes) (leader : Bytes) : PluginResult :=
  if leader ≠ [] then
    { code := .ok, message := elected ++ leader }
  else
    { code := .critical, message := none }

def consulLeader : Bytes → PluginResult :=
  reportLeader (str "Consul OK - Leader: ") (str "Consul CRITICAL - No leader elected")

def nomadLeader : Bytes → PluginResult :=
  reportLeader (str "Nomad OK - Leader: ") (str "Nomad CRITICAL - No leader elected")

theorem reportLeader_inj {elected none leader leader' : Bytes}
    : reportLeader elected none leader = reportLeader elected none leader' ↔ leader = leader' := by
  refine ⟨?_, congrArg (reportLeader elected none)⟩
  intro h
  unfold reportLeader at h
  by_cases hleader : leader = []
  . by_cases hleader' : leader' = []
    . rw [hleader, hleader']
    . simp [hleader, hleader'] at h
  . by_cases hleader' : leader' = []
    . simp [hleader, hleader'] at h
    . rw [if_pos hleader, if_pos hleader'] at h
      exact List.append_cancel_left (congrArg PluginResult.message h)

section

variable {lead trail : Blank} {name : LeaderName}

theorem leaderDocument_text
    : (leaderDocument lead trail name).text
        =
      lead.bytes ++ (34 :: (name.bytes ++ 34 :: trail.bytes)) := by
  simp [leaderDocument, Document.text, Node.text, quoted, LeaderName.raw]

theorem extractJsonValue_leaderDocument
    : extractJsonValue (leaderDocument lead trail name).text (str "leader") = [] := by
  apply extractJsonValue_of_none (by decide)
  simp [leaderDocument, Node.members]

/-- Behind the first byte, all but the last one. -/
theorem substr_quoted (content trail : Bytes)
    : substr (34 :: (content ++ 34 :: trail)) 1 ((34 :: (content ++ 34 :: trail)).length - 2)
        =
      content ++ (34 :: trail).take trail.length := by
  have hlength : (34 :: (content ++ 34 :: trail)).length - 2 = content.length + trail.length := by
    simp only [List.length_cons, List.length_append]
    omega
  unfold substr
  rw [hlength, List.drop_succ_cons, List.drop_zero, List.take_length_add_append]

theorem leaderOf_leaderDocument
    : ConsulPlugin.leaderOf (leaderDocument lead trail name).text = name.bytes
        ↔
      lead.bytes = [] ∧ trail.bytes = [] := by
  unfold ConsulPlugin.leaderOf
  rw [extractJsonValue_leaderDocument, leaderDocument_text]
  simp only [↓reduceIte]
  cases hlead : lead.bytes with
  | nil =>
    rw [List.nil_append, if_pos ⟨by simp, rfl⟩, substr_quoted, List.append_right_eq_self]
    cases trail.bytes with
    | nil => simp
    | cons c blanks => simp
  | cons c blanks =>
    have hc : c ≠ 34 := by
      rintro rfl
      have hblank := lead.blank 34 (by simp [hlead])
      revert hblank
      decide
    simp only [List.cons_append, List.head?_cons, Option.some.injEq, hc, and_false, ↓reduceIte,
      reduceCtorEq, false_and, iff_false]
    intro h
    have hlength := congrArg List.length h
    simp only [List.length_cons, List.length_append] at hlength
    omega

end

theorem leader_exact_iff (lead trail : Blank) (name : LeaderName)
    : (∀ (sslEnabled : Bool) (server : Server) (config : ConsulPlugin.Config),
          config.hostname ≠ [] → config.checkType = str "leader" →
          httpGet sslEnabled server config.hostname config.port (str "/v1/status/leader") false
              config.timeoutSeconds
            = .ok (200, (leaderDocument lead trail name).text) →
          (ConsulPlugin.check sslEnabled server config = consulLeader name.bytes
            ↔ lead.bytes = [] ∧ trail.bytes = []))
        ∧ (∀ (sslEnabled : Bool) (server : Server) (config : NomadPlugin.Config),
          config.hostname ≠ [] → config.checkType = str "leader" →
          httpGet sslEnabled server config.hostname config.port (str "/v1/status/leader") false
              config.timeoutSeconds
            = .ok (200, (leaderDocument lead trail name).text) →
          (NomadPlugin.check sslEnabled server config = nomadLeader name.bytes
            ↔ lead.bytes = [] ∧ trail.bytes = [])) := by
  have hok : ¬ ((200 : Int) ≠ 200 ∨ (leaderDocument lead trail name).text = []) := by
    simp [Document.text_ne_nil]
  constructor
  . intro sslEnabled server config hhost hmode hanswer
    have hpath : ConsulPlugin.apiPath config.checkType = str "/v1/status/leader" := by
      rw [hmode]
      decide
    have hcheck : ConsulPlugin.check sslEnabled server config
        = consulLeader (ConsulPlugin.leaderOf (leaderDocument lead trail name).text) := by
      unfold ConsulPlugin.check
      rw [if_neg hhost, hpath, hanswer]
      simp only
      rw [if_neg hok, hmode, if_neg (by decide), if_pos rfl]
      rfl
    rw [hcheck]
    exact reportLeader_inj.trans leaderOf_leaderDocument
  . intro sslEnabled server config hhost hmode hanswer
    have hpath : NomadPlugin.apiPath config.checkType = str "/v1/status/leader" := by
      rw [hmode]
      decide
    have hcheck : NomadPlugin.check sslEnabled server config
        = nomadLeader (ConsulPlugin.leaderOf (leaderDocument lead trail name).text) := by
      unfold NomadPlugin.check
      rw [if_neg hhost, hpath, hanswer]
      simp only
      rw [if_neg hok, if_pos (.inr hmode)]
      rfl
    rw [hcheck]
    exact reportLeader_inj.trans leaderOf_leaderDocument

def noLeader : LeaderName := ⟨[], by simp⟩

def lineBreak : Blank := ⟨str "\n", by simp [str, isBlank]⟩

theorem leader_exact_of_none
    : ConsulPlugin.check true (serving (leaderDocument {} {} noLeader).text (by decide))
          { hostname := str "consul", checkType := str "leader" }
          = consulLeader []
        ∧ NomadPlugin.check true (serving (leaderDocument {} {} noLeader).text (by decide))
          { hostname := str "nomad", checkType := str "leader" }
          = nomadLeader [] := by
  constructor
  . apply ((leader_exact_iff {} {} noLeader).1 true _ _ (by decide) rfl _).mpr ⟨rfl, rfl⟩
    apply httpGetAuth_serving
    decide
  . apply ((leader_exact_iff {} {} noLeader).2 true _ _ (by decide) rfl _).mpr ⟨rfl, rfl⟩
    apply httpGetAuth_serving
    decide

/-- An empty leader with a line break behind it is reported as a leader, whose name is a quote. -/
theorem leader_of_newline
    : (ConsulPlugin.check true (serving (leaderDocument {} lineBreak noLeader).text (by decide))
          { hostname := str "consul", checkType := str "leader" }).code = .ok
        ∧ (NomadPlugin.check true (serving (leaderDocument {} lineBreak noLeader).text (by decide))
          { hostname := str "nomad", checkType := str "leader" }).code = .ok
        ∧ (consulLeader noLeader.bytes).code = .critical
        ∧ (nomadLeader noLeader.bytes).code = .critical := by
  decide +kernel

end NetmonPlugins

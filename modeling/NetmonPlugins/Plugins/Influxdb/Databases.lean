import NetmonPlugins.Common.HttpApi.Response
import NetmonPlugins.Common.JsonUtils.Count
import NetmonPlugins.Cxx.Digits
import NetmonPlugins.Plugins.Influxdb.Impl

/-!
This module determines which answers to `SHOW DATABASES` have their databases counted right.
-/

namespace NetmonPlugins
namespace InfluxdbPlugin

open Json

def nameKey : Raw := ⟨str "name", by decide⟩

/-- One series with the column `name` and one row for each database, in the layout of InfluxDB 1.x. -/
inductive ShowsDatabases : ValueNode → Raw → List Raw → Prop where
  | intro {value results result statements series columns values : ValueNode}
      {statementId : Literal} {title : Raw} {rows : List ValueNode} {databases : List Raw}
      (hvalue : value.IsObjectOf [(⟨str "results", by decide⟩, results)])
      (hresults : results.IsArrayOf [result])
      (hresult : result.IsObjectOf
        [(⟨str "statement_id", by decide⟩, .literal statementId),
          (⟨str "series", by decide⟩, statements)])
      (hstatements : statements.IsArrayOf [series])
      (hseries : series.IsObjectOf
        [(nameKey, .string title), (⟨str "columns", by decide⟩, columns),
          (⟨str "values", by decide⟩, values)])
      (hcolumns : columns.IsArrayOf [.string nameKey])
      (hvalues : values.IsArrayOf rows)
      (hrows : List.Forall₂ (fun row database => row.IsArrayOf [.string database]) rows databases)
    : ShowsDatabases value title databases

def reporting (count : Nat) : PluginResult where
  code := .ok
  message := str "InfluxDB OK - " ++ natDec count ++ str " databases"
  perfdata := str "databases=" ++ natDec count

theorem strings_of_rows {rows : List ValueNode} {databases : List Raw}
    (h : List.Forall₂ (fun row database => row.IsArrayOf [.string database]) rows databases)
    : rows.flatMap Node.strings = databases := by
  induction h with
  | nil => rfl
  | cons hrow _ ih =>
    rw [List.flatMap_cons, hrow.strings_eq, ih]
    rfl

/-- The key is read by the name of the series and by the name of its column. -/
theorem ShowsDatabases.countP_strings {value : ValueNode} {title : Raw} {databases : List Raw}
    (h : ShowsDatabases value title databases)
    : value.strings.countP (·.Reads (str "name"))
        =
      2 + (title :: databases).countP (·.Reads (str "name")) := by
  cases h with
  | @intro results result statements series columns values _ _ _ _ hvalue hresults hresult
      hstatements hseries hcolumns hvalues hrows =>
    have hnameKey : nameKey.Reads (str "name") := by decide
    have hresultsKey : ¬ (⟨str "results", by decide⟩ : Raw).Reads (str "name") := by decide
    have hstatementKey : ¬ (⟨str "statement_id", by decide⟩ : Raw).Reads (str "name") := by decide
    have hseriesKey : ¬ (⟨str "series", by decide⟩ : Raw).Reads (str "name") := by decide
    have hcolumnsKey : ¬ (⟨str "columns", by decide⟩ : Raw).Reads (str "name") := by decide
    have hvaluesKey : ¬ (⟨str "values", by decide⟩ : Raw).Reads (str "name") := by decide
    have hseriesCount : series.strings.countP (·.Reads (str "name"))
        = 2 + (title :: databases).countP (·.Reads (str "name")) := by
      rw [hseries.countP_strings]
      simp [hcolumns.strings_eq, hvalues.strings_eq, strings_of_rows hrows, Node.strings, hnameKey,
        hcolumnsKey, hvaluesKey, List.countP_cons]
      omega
    have hresultCount : result.strings.countP (·.Reads (str "name"))
        = series.strings.countP (·.Reads (str "name")) := by
      rw [hresult.countP_strings]
      simp [hstatementKey, hseriesKey, Node.strings, hstatements.strings_eq]
    rw [← hseriesCount, ← hresultCount, hvalue.countP_strings]
    simp [hresults.strings_eq, hresultsKey]

theorem reporting_inj {count count' : Nat} (h : reporting count = reporting count')
    : count = count' :=
  natDec_inj (List.append_cancel_left (congrArg PluginResult.perfdata h))

theorem check_databases_of_answer {sslEnabled : Bool} {server : Server} {config : Config}
    {document : Document} (hhost : config.hostname ≠ [])
    (hmode : config.checkType = str "databases")
    (hanswer : fetch sslEnabled server config = .ok (200, document.text))
    : check sslEnabled server config
        =
      reporting (document.value.strings.countP (·.Reads (str "name"))) := by
  have hreachable : ¬ ((200 : Int) = 0 ∨ document.text = []) := by
    simp [document.text_ne_nil]
  unfold check
  rw [if_neg hhost, hanswer, ← countQuoted_document (by decide)]
  dsimp only
  unfold judge
  rw [if_neg hreachable, hmode, if_neg (by decide), if_neg (by decide), if_pos rfl]
  rfl

theorem check_databases_eq_reporting_iff (sslEnabled : Bool) (server : Server) (config : Config)
    (document : Document) (title : Raw) (databases : List Raw) (hhost : config.hostname ≠ [])
    (hmode : config.checkType = str "databases")
    (hanswer : fetch sslEnabled server config = .ok (200, document.text))
    (hshows : ShowsDatabases document.value title databases)
    : check sslEnabled server config = reporting databases.length
        ↔
      databases.length = 2 + (title :: databases).countP (·.Reads (str "name")) := by
  rw [check_databases_of_answer hhost hmode hanswer, hshows.countP_strings]
  constructor
  . intro h
    exact (reporting_inj h).symm
  . intro h
    rw [h]

def row (database : Raw) : ValueNode :=
  .array (.element {} {} (.string database) .noElements) {}

def rowsOf : List Raw → Node .elements
  | [] => .noElements
  | database :: databases => .element {} {} (row database) (rowsOf databases)

def databasesSeries (databases : List Raw) : ValueNode :=
  .object
    (.member {} {} nameKey {} {} (.string ⟨str "databases", by decide⟩)
      (.member {} {} ⟨str "columns", by decide⟩ {} {}
        (.array (.element {} {} (.string nameKey) .noElements) {})
        (.member {} {} ⟨str "values", by decide⟩ {} {} (.array (rowsOf databases) {}) .noMembers))) {}

def databasesResult (databases : List Raw) : ValueNode :=
  .object
    (.member {} {} ⟨str "statement_id", by decide⟩ {} {}
      (.literal (.ofPlain (str "0") (by decide) (by decide)))
      (.member {} {} ⟨str "series", by decide⟩ {} {}
        (.array (.element {} {} (databasesSeries databases) .noElements) {}) .noMembers)) {}

def showDatabases (databases : List Raw) : Document where
  value := .object
    (.member {} {} ⟨str "results", by decide⟩ {} {}
      (.array (.element {} {} (databasesResult databases) .noElements) {}) .noMembers) {}

theorem values_rowsOf (databases : List Raw) : (rowsOf databases).values = databases.map row := by
  induction databases with
  | nil => rfl
  | cons database databases ih =>
    rw [rowsOf, Node.values, ih]
    rfl

theorem showsDatabases_showDatabases (databases : List Raw)
    : ShowsDatabases (showDatabases databases).value ⟨str "databases", by decide⟩ databases := by
  have hrows : List.Forall₂ (fun row database => Node.IsArrayOf [.string database] row)
      (databases.map row) databases := by
    rw [List.forall₂_map_left_iff, List.forall₂_same]
    intro database _
    exact ⟨_, _, rfl, rfl⟩
  exact .intro ⟨rfl, .refl _⟩ ⟨_, _, rfl, rfl⟩ ⟨rfl, .refl _⟩ ⟨_, _, rfl, rfl⟩ ⟨rfl, .refl _⟩
    ⟨_, _, rfl, rfl⟩ ⟨_, _, rfl, values_rowsOf databases⟩ hrows

def config : Config where
  hostname := str "tsdb"
  checkType := str "databases"

theorem fetch_serving (document : Document)
    (h : (okEnvelope.text ++ document.text).length ≤ 8191) (hnul : (0 : UInt8) ∉ document.text)
    : fetch true (serving document.text h) config = .ok (200, document.text) := by
  unfold fetch httpGet
  rw [if_neg (by decide)]
  apply httpGetAuth_serving
  exact hnul

def twoDatabases : List Raw := [⟨str "_internal", by decide⟩, ⟨str "telegraf", by decide⟩]

theorem check_databases_two
    : check true (serving (showDatabases twoDatabases).text (by decide +kernel)) config = reporting 2 :=
  (check_databases_eq_reporting_iff true _ config (showDatabases twoDatabases) _ twoDatabases
    (by decide) rfl (fetch_serving _ _ (by decide +kernel)) (showsDatabases_showDatabases _)).mpr
      (by decide)

/-- An installation without databases is reported with two. -/
theorem check_databases_none
    : ShowsDatabases (showDatabases []).value ⟨str "databases", by decide⟩ []
        ∧
      check true (serving (showDatabases []).text (by decide +kernel)) config = reporting 2 := by
  refine ⟨showsDatabases_showDatabases [], ?_⟩
  rw [check_databases_of_answer (by decide) rfl (fetch_serving _ _ (by decide +kernel)),
    (showsDatabases_showDatabases []).countP_strings]
  rfl

end InfluxdbPlugin
end NetmonPlugins

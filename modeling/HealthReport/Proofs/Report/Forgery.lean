import HealthReport.Detection.Summary
import HealthReport.Detection.Verdict
import HealthReport.Proofs.Report.Labels
import HealthReport.Proofs.Text.Lines
import HealthReport.Proofs.Validation.FailFast

/-!
# Which texts of a report can forge lines

What is said about a report is laid out in rows: a row for each check, for each anomaly, for each
recommendation, for each reason. Most of what a report holds is shown as a number or as JSON text,
which has no newline, but some of its strings are shown as they are. The lines that are read are the
rows that were meant if and only if none of these strings holds a newline.

Results:
1. `lines_text_iff`: the text of a verdict.
2. `lines_summaryText_iff`: the summary before it.
3. `lines_reasons_iff`, `lines_message_iff`: the reasons of validation and its advisory.
4. `lines_faithful_iff`: all of it, for every report.
-/
namespace HealthReport

/-! ## Definitions -/

namespace Verdict

def checkRow (c : Check) : String :=
  "  [" ++ (if c.passed then "+] PASS: " else "!] FAIL: ") ++ c.name ++ "  (" ++ c.detail ++ ")"

/-- A row for each check, an empty row and the tally. -/
def rows (v : Verdict) : List String :=
  v.checks.map checkRow ++
    ["", "  Result: " ++ toString v.passedCount ++ "/" ++ toString v.checks.length ++
      " checks passed"]

end Verdict

namespace Report

/-- A row if the name of the host is known, none else. -/
def hostRows (m : Metadata) : List String :=
  match m.text? "hostname" with
  | none => []
  | some hostname =>
    ["  Host: " ++ hostname ++ " (profile=" ++ (m.text? "profile").getD "?" ++ ", melisai " ++
      (m.text? "version").getD "?" ++ ")"]

def anomalyRow (a : Anomaly) : String :=
  "    [" ++ padEnd 8 (uppercase (orUnknown a.severity)) ++ "] " ++ a.metric?.getD "?" ++ ": " ++
    a.message ++ " (value=" ++ shownOrUnknown a.value? ++ ")"

def recommendationRow (r : Recommendation) : String :=
  "    [" ++ shownOrUnknown r.priority? ++ "] " ++ orUnknown r.title

/-- The header, the host, the health score, the anomalies and the recommendations. -/
def summaryRows (r : Report) (s : Scenario) : List String :=
  ["--- Report summary for test '" ++ s.name ++ "' ---"] ++ hostRows r.metadata ++
    ["  Health score: " ++ Json.shown r.summary.healthScore?,
      "  Anomalies (" ++ toString r.anomalies.length ++ "):"] ++ r.anomalies.map anomalyRow ++
    ["  Recommendations (" ++ toString r.recommendations.length ++ "):"] ++
    r.recommendations.map recommendationRow

end Report

/-- The texts that the checks of a scenario show as they are. -/
inductive Scenario.Quotes (r : Report) : Scenario → String → Prop
  | score {s : Scenario} {text : String} (asks : s ≠ forkStorm ∧ s ≠ tcpRetrans)
      (score : r.summary.healthScore? = some (.string text)) : Quotes r s text
  | category {a : Anomaly} {text : String} (listed : a ∈ r.anomalies)
      (category : a.category? = some (.string text)) : Quotes r combined text
  | name {text : String} (named : text ∈ r.metadata.names) : Quotes r observerEffect text

/-- The texts that the row about the host shows as they are. -/
inductive Metadata.Quotes (m : Metadata) : String → Prop
  | hostname {text : String} (found : m.text? "hostname" = some text) : Quotes m text
  | profile {host text : String} (known : m.text? "hostname" = some host)
      (found : m.text? "profile" = some text) : Quotes m text
  | version {host text : String} (known : m.text? "hostname" = some host)
      (found : m.text? "version" = some text) : Quotes m text

/-- The texts that the row about an anomaly shows as they are, apart from case. -/
inductive Anomaly.Quotes (a : Anomaly) : String → Prop
  | severity : Quotes a a.severity
  | metric {text : String} (found : a.metric? = some text) : Quotes a text
  | message : Quotes a a.message
  | value {text : String} (found : a.value? = some (.string text)) : Quotes a text

inductive Recommendation.Quotes (r : Recommendation) : String → Prop
  | priority {text : String} (found : r.priority? = some (.string text)) : Quotes r text
  | title : Quotes r r.title

/-- The texts that the summary of a report shows as they are. -/
inductive Report.SummaryQuotes (r : Report) : String → Prop
  | host {text : String} (quotes : r.metadata.Quotes text) : SummaryQuotes r text
  | score {text : String} (score : r.summary.healthScore? = some (.string text)) :
      SummaryQuotes r text
  | anomaly {a : Anomaly} {text : String} (listed : a ∈ r.anomalies) (quotes : a.Quotes text) :
      SummaryQuotes r text
  | recommendation {advice : Recommendation} {text : String} (listed : advice ∈ r.recommendations)
      (quotes : advice.Quotes text) : SummaryQuotes r text

/-- The category or the collector that a defect names. -/
def Defect.subject? : Defect → Option String
  | categoryNotArray category => some category
  | resultNotObject category _ => some category
  | missingCollector category _ => some category
  | missingResultKey collector _ => some collector
  | invalidTier collector _ => some collector
  | _ => none

/-- A check whose row is a line. -/
def Check.Clean (c : Check) : Prop := IsLine c.name ∧ IsLine c.detail

/-! ## 1. The text of a verdict -/

namespace Verdict

theorem checkLine_eq (c : Check) : checkLine c = checkRow c ++ "\n" := by
  simp only [checkLine, checkRow, String.append_assoc]
  rfl

theorem text_eq_unlines (v : Verdict) : v.text = unlines v.rows := by
  have checks : v.checks.map checkLine = (v.checks.map checkRow).map (· ++ "\n") := by
    rw [List.map_map]
    exact List.map_congr_left fun c _ => checkLine_eq c
  rw [text, checks, unlines, rows, List.map_append, String.join_append]
  simp only [List.map_cons, List.map_nil, String.join_cons, String.join_nil, String.append_assoc]
  rfl

theorem isLine_checkRow_iff (c : Check) : IsLine (checkRow c) ↔ c.Clean := by
  cases c with
  | mk name passed detail => cases passed <;> simp +decide [checkRow, Check.Clean]

theorem isLine_rows_iff (v : Verdict) : (∀ row ∈ v.rows, IsLine row) ↔ ∀ c ∈ v.checks, c.Clean := by
  simp +decide [rows, or_imp, forall_and, isLine_checkRow_iff]

end Verdict

namespace Check

variable {r : Report}

theorem clean_mk_iff {name : String} {passed : Bool} {detail : String} :
    Clean ⟨name, passed, detail⟩ ↔ IsLine name ∧ IsLine detail := Iff.rfl

@[simp]
theorem isLine_shownNumber (x : Option Binary64) : IsLine (shownNumber x) := by
  cases x with
  | none => decide
  | some x => exact x.isLine_plain

@[simp]
theorem isLine_valueDetail (x : Option Binary64) : IsLine (valueDetail x) := by
  cases x with
  | none => decide
  | some x => simp +decide [valueDetail]

@[simp]
theorem isLine_loadDetail (r : Report) : IsLine (loadDetail r) := by
  simp +decide [loadDetail]

theorem isLine_percentPart {label : String} (clean : IsLine label) (percent : Option Binary64) :
    IsLine (percentPart label percent) := by
  cases percent with
  | none => exact List.not_mem_nil
  | some p => simp +decide [percentPart, clean]

theorem clean_metricWarned {metric : String} (clean : IsLine metric) :
    (metricWarned r metric).Clean := by
  simp +decide [metricWarned, Clean, clean]

theorem clean_healthBelow_iff {limit : Nat} :
    (healthBelow r limit).Clean ↔ IsLine (Json.shown r.summary.healthScore?) := by
  dsimp only [healthBelow, Clean, healthDetail]
  simp +decide

theorem clean_cpuBurn_iff :
    (∀ c ∈ cpuBurn r, c.Clean) ↔ IsLine (Json.shown r.summary.healthScore?) := by
  simp +decide [cpuBurn, clean_metricWarned, clean_healthBelow_iff, clean_mk_iff]

theorem clean_memoryPressure_iff :
    (∀ c ∈ memoryPressure r, c.Clean) ↔ IsLine (Json.shown r.summary.healthScore?) := by
  simp +decide [memoryPressure, isLine_percentPart, clean_healthBelow_iff, clean_mk_iff]

theorem clean_diskFlood_iff :
    (∀ c ∈ diskFlood r, c.Clean) ↔ IsLine (Json.shown r.summary.healthScore?) := by
  simp +decide [diskFlood, clean_healthBelow_iff, clean_mk_iff]

theorem clean_forkStorm : ∀ c ∈ forkStorm r, c.Clean := by
  simp +decide [forkStorm, clean_metricWarned, clean_mk_iff]

theorem clean_runqSaturation_iff :
    (∀ c ∈ runqSaturation r, c.Clean) ↔ IsLine (Json.shown r.summary.healthScore?) := by
  simp +decide [runqSaturation, clean_metricWarned, clean_healthBelow_iff, clean_mk_iff]

theorem clean_tcpRetrans : ∀ c ∈ tcpRetrans r, c.Clean := by
  refine List.forall_mem_cons.2 ⟨clean_metricWarned (by decide), ?_⟩
  exact List.forall_mem_singleton.2 (clean_mk_iff.2 ⟨by decide, by split <;> decide⟩)

theorem clean_combined_iff : (∀ c ∈ combined r, c.Clean) ↔
    IsLine (Json.shown r.summary.healthScore?) ∧ ∀ label ∈ r.anomalyCategories, IsLine label := by
  simp +decide [combined, clean_healthBelow_iff, clean_mk_iff, isLine_intercalate, and_comm]

theorem clean_observerEffect_iff : (∀ c ∈ observerEffect r, c.Clean) ↔
    (r.metadata.isEmpty = false → ∀ name ∈ r.metadata.names, IsLine name) ∧
      IsLine (Json.shown r.summary.healthScore?) := by
  cases empty : r.metadata.isEmpty <;>
    simp +decide [observerEffect, empty, clean_mk_iff, healthDetail, isLine_intercalate]

end Check

/-- Metadata that have members do not count as empty. -/
theorem Metadata.isEmpty_of_mem_names {m : Metadata} {name : String} (named : name ∈ m.names) :
    m.isEmpty = false := by
  obtain ⟨raw⟩ := m
  cases raw with
  | none => cases named
  | some raw =>
    cases raw with
    | object members =>
      cases members with
      | nil => cases named
      | cons _ _ => rfl
    | null | bool _ | number _ | string _ | array _ => cases named

namespace Scenario

variable {r : Report} {s : Scenario} {P : String → Prop}

theorem forall_quotes_iff : (∀ text, s.Quotes r text → P text) ↔
    (s ≠ forkStorm ∧ s ≠ tcpRetrans →
      ∀ text, r.summary.healthScore? = some (.string text) → P text) ∧
    (s = combined → ∀ a ∈ r.anomalies, ∀ text, a.category? = some (.string text) → P text) ∧
    (s = observerEffect → ∀ text ∈ r.metadata.names, P text) := by
  constructor
  · intro all
    refine ⟨fun asks text score => all text (.score asks score), ?_, ?_⟩
    · rintro rfl a listed text category
      exact all text (.category listed category)
    · rintro rfl text named
      exact all text (.name named)
  · rintro ⟨score, category, name⟩ text quotes
    cases quotes with
    | score asks held => exact score asks text held
    | category listed held => exact category rfl _ listed text held
    | name named => exact name rfl text named

/-- The checks of a scenario are lines if what they quote is. -/
theorem clean_checks_iff :
    (∀ c ∈ s.checks r, c.Clean) ↔ ∀ text, s.Quotes r text → IsLine text := by
  rw [forall_quotes_iff, ← Json.isLine_shown_iff]
  cases s with
  | cpuBurn => simpa [checks] using Check.clean_cpuBurn_iff
  | memoryPressure => simpa [checks] using Check.clean_memoryPressure_iff
  | diskFlood => simpa [checks] using Check.clean_diskFlood_iff
  | forkStorm => simpa [checks] using Check.clean_forkStorm
  | runqSaturation => simpa [checks] using Check.clean_runqSaturation_iff
  | tcpRetrans => simpa [checks] using Check.clean_tcpRetrans
  | combined =>
    simp [checks, Check.clean_combined_iff, Report.mem_anomalyCategories_iff, Json.isLine_shown_iff]
  | observerEffect =>
    have named : (r.metadata.isEmpty = false → ∀ name ∈ r.metadata.names, IsLine name) ↔
        ∀ name ∈ r.metadata.names, IsLine name :=
      ⟨fun all name named => all (Metadata.isEmpty_of_mem_names named) name named, fun all _ => all⟩
    simp [checks, Check.clean_observerEffect_iff, named, and_comm]

/-- The lines of a verdict are its rows if and only if no text that the checks quote holds a
newline. -/
theorem lines_text_iff :
    lines (s.run r).text = (s.run r).rows ↔ ∀ text, s.Quotes r text → IsLine text := by
  rw [Verdict.text_eq_unlines, lines_unlines_iff, Verdict.isLine_rows_iff]
  exact clean_checks_iff

end Scenario

/-! ## 2. The summary -/

namespace Report

variable {r : Report} {s : Scenario}

theorem isLine_orUnknown_iff {text : String} : IsLine (orUnknown text) ↔ IsLine text := by
  rw [orUnknown]
  split
  case isTrue empty =>
    rw [String.isEmpty_iff] at empty
    exact iff_of_true (by decide) (empty ▸ List.not_mem_nil)
  case isFalse => rfl

theorem isLine_shownOrUnknown_iff {v : Option Json} :
    IsLine (shownOrUnknown v) ↔ ∀ text, v = some (.string text) → IsLine text := by
  cases v with
  | none => exact iff_of_true (by decide) fun _ same => nomatch same
  | some v => exact Json.isLine_shown_iff

theorem isLine_padEnd_iff {width : Nat} {text : String} :
    IsLine (padEnd width text) ↔ IsLine text := by
  simp [IsLine, padEnd]

theorem isLine_getD_iff {text : Option String} {other : String} (clean : IsLine other) :
    IsLine (text.getD other) ↔ ∀ held, text = some held → IsLine held := by
  cases text with
  | none => exact iff_of_true clean fun _ same => nomatch same
  | some text => simp

theorem isLine_hostRows_iff (m : Metadata) :
    (∀ row ∈ hostRows m, IsLine row) ↔ ∀ text, m.Quotes text → IsLine text := by
  cases known : m.text? "hostname" with
  | none =>
    refine iff_of_true (by simp [hostRows, known]) fun text quotes => ?_
    cases quotes with
    | hostname named | profile named _ | version named _ => cases known.symm.trans named
  | some host =>
    have parts : (∀ row ∈ hostRows m, IsLine row) ↔ IsLine host ∧
        (∀ text, m.text? "profile" = some text → IsLine text) ∧
        ∀ text, m.text? "version" = some text → IsLine text := by
      simp +decide [hostRows, known, isLine_getD_iff, and_assoc]
    rw [parts]
    constructor
    · rintro ⟨name, profile, version⟩ text quotes
      cases quotes with
      | hostname found => exact (Option.some.inj (known.symm.trans found)) ▸ name
      | profile _ found => exact profile text found
      | version _ found => exact version text found
    · intro all
      exact ⟨all _ (.hostname known), fun text found => all text (.profile known found),
        fun text found => all text (.version known found)⟩

theorem isLine_anomalyRow_iff (a : Anomaly) :
    IsLine (anomalyRow a) ↔ ∀ text, a.Quotes text → IsLine text := by
  have parts : IsLine (anomalyRow a) ↔ IsLine a.severity ∧
      (∀ text, a.metric? = some text → IsLine text) ∧ IsLine a.message ∧
      ∀ text, a.value? = some (.string text) → IsLine text := by
    dsimp only [anomalyRow]
    simp +decide [isLine_padEnd_iff, isLine_uppercase_iff, isLine_orUnknown_iff,
      isLine_getD_iff, isLine_shownOrUnknown_iff, and_assoc]
  rw [parts]
  constructor
  · rintro ⟨severity, metric, message, value⟩ text quotes
    cases quotes with
    | severity => exact severity
    | metric found => exact metric text found
    | message => exact message
    | value found => exact value text found
  · intro all
    exact ⟨all _ .severity, fun text found => all text (.metric found), all _ .message,
      fun text found => all text (.value found)⟩

theorem isLine_recommendationRow_iff (advice : Recommendation) :
    IsLine (recommendationRow advice) ↔ ∀ text, advice.Quotes text → IsLine text := by
  have parts : IsLine (recommendationRow advice) ↔
      (∀ text, advice.priority? = some (.string text) → IsLine text) ∧ IsLine advice.title := by
    dsimp only [recommendationRow]
    simp +decide [isLine_orUnknown_iff, isLine_shownOrUnknown_iff]
  rw [parts]
  constructor
  · rintro ⟨priority, title⟩ text quotes
    cases quotes with
    | priority found => exact priority text found
    | title => exact title
  · intro all
    exact ⟨fun text found => all text (.priority found), all _ .title⟩

theorem hostLine_eq (m : Metadata) : hostLine m = unlines (hostRows m) := by
  cases known : m.text? "hostname" with
  | none =>
    simp only [hostLine, hostRows, known]
    rfl
  | some host =>
    simp only [hostLine, hostRows, known, unlines, List.map_cons, List.map_nil, String.join_cons,
      String.join_nil, String.append_assoc]
    rfl

theorem anomalyLine_eq (a : Anomaly) : anomalyLine a = anomalyRow a ++ "\n" := by
  have closing : ")\n" = ")" ++ "\n" := rfl
  dsimp only [anomalyLine, anomalyRow]
  rw [closing, ← String.append_assoc]

theorem recommendationLine_eq (advice : Recommendation) :
    recommendationLine advice = recommendationRow advice ++ "\n" := rfl

theorem summaryText_eq_unlines (r : Report) (s : Scenario) :
    r.summaryText s = unlines (r.summaryRows s) := by
  have anomalies : r.anomalies.map anomalyLine = (r.anomalies.map anomalyRow).map (· ++ "\n") := by
    rw [List.map_map]
    exact List.map_congr_left fun a _ => anomalyLine_eq a
  have recommendations : r.recommendations.map recommendationLine =
      (r.recommendations.map recommendationRow).map (· ++ "\n") := by
    rw [List.map_map]
    exact List.map_congr_left fun advice _ => recommendationLine_eq advice
  have header : "' ---\n" = "' ---" ++ "\n" := rfl
  have heading : "):\n" = "):" ++ "\n" := rfl
  dsimp only [summaryText, summaryRows]
  rw [anomalies, recommendations, hostLine_eq, header, heading]
  simp only [unlines, List.map_append, String.join_append, List.map_cons, List.map_nil,
    String.join_cons, String.join_nil, String.append_assoc, String.empty_append]

theorem isLine_name (s : Scenario) : IsLine s.name := by
  cases s <;> decide

theorem isLine_summaryRows_iff :
    (∀ row ∈ r.summaryRows s, IsLine row) ↔ ∀ text, r.SummaryQuotes text → IsLine text := by
  have parts : (∀ row ∈ r.summaryRows s, IsLine row) ↔
      (∀ row ∈ hostRows r.metadata, IsLine row) ∧ IsLine (Json.shown r.summary.healthScore?) ∧
      (∀ a ∈ r.anomalies, IsLine (anomalyRow a)) ∧
      ∀ advice ∈ r.recommendations, IsLine (recommendationRow advice) := by
    simp +decide [summaryRows, or_imp, forall_and, isLine_name]
  rw [parts, isLine_hostRows_iff, Json.isLine_shown_iff]
  simp only [isLine_anomalyRow_iff, isLine_recommendationRow_iff]
  constructor
  · rintro ⟨host, score, anomaly, recommendation⟩ text quotes
    cases quotes with
    | host quotes => exact host text quotes
    | score held => exact score text held
    | anomaly listed quotes => exact anomaly _ listed text quotes
    | recommendation listed quotes => exact recommendation _ listed text quotes
  · intro all
    exact ⟨fun text quotes => all text (.host quotes), fun text held => all text (.score held),
      fun a listed text quotes => all text (.anomaly listed quotes),
      fun advice listed text quotes => all text (.recommendation listed quotes)⟩

/-- The lines of a summary are its rows if and only if no text that it quotes holds a newline. -/
theorem lines_summaryText_iff :
    lines (r.summaryText s) = r.summaryRows s ↔ ∀ text, r.SummaryQuotes text → IsLine text := by
  rw [summaryText_eq_unlines, lines_unlines_iff, isLine_summaryRows_iff]

end Report

/-! ## 3. Reasons and advisory -/

namespace Report

variable {r : Report}

/-- What a defect can be: one that ends the search, or a flaw of the document. -/
theorem defect_cases {d : Defect} (found : d ∈ r.assess.defects) :
    (∃ names, r.Lacks names ∧ d = .missingTopLevel names) ∨ d = .categoriesNotObject ∨
      ∃ site, Flaw r.root site d := by
  obtain ⟨names, lacks, ended⟩ | ⟨errors, region, listed, ended⟩ | ⟨region, listed⟩ :=
    defects_cases r
  · rw [ended, List.mem_singleton] at found
    exact .inl ⟨names, lacks, found⟩
  · rw [ended, List.mem_append, List.mem_singleton] at found
    obtain flaw | last := found
    · exact .inr (.inr (listed.flaw_of_mem flaw))
    · exact .inr (.inl last)
  · exact .inr (.inr (listed.flaw_of_mem found))

end Report

namespace Defect

theorem message_ne_empty (d : Defect) : d.message ≠ "" := by
  cases d <;> dsimp only [message, place] <;> simp

theorem isLine_place_iff {category : String} {index : Nat} :
    IsLine (place category index) ↔ IsLine category := by
  dsimp only [place]
  simp +decide

/-- Names out of a fixed list are told on one line. -/
theorem isLine_listing {title : String} {names known : List String} {lacks : String → Bool}
    (clean : IsLine title) (some_known : names = known.filter lacks)
    (all : ∀ name ∈ known, IsLine name) : IsLine (title ++ ", ".intercalate names) := by
  subst some_known
  rw [isLine_append, isLine_intercalate (by decide)]
  exact ⟨clean, fun name member => all name (List.mem_of_mem_filter member)⟩

/-- What stands in an entry is told as JSON text, so only the names before it can hold a newline. -/
theorem isLine_message_of_entryFlaw {category : String} {index : Nat} {entry : Json} {site : Site}
    {d : Defect} (flaw : EntryFlaw category index entry site d) :
    IsLine d.message ↔ ∀ name ∈ d.subject?, IsLine name := by
  cases flaw <;> dsimp only [message, subject?] <;> simp +decide [isLine_place_iff]

theorem isLine_message_of_flaw {root : Json} {site : Site} {d : Defect}
    (flaw : Flaw root site d) : IsLine d.message ↔ ∀ name ∈ d.subject?, IsLine name := by
  cases flaw with
  | entry _ _ flaw => exact isLine_message_of_entryFlaw flaw
  | mandatory _ all =>
    exact iff_of_true (isLine_listing (by decide) all (by decide)) fun _ none => nomatch none
  | tool _ | selfPid _ _ | array _ _ | results _ | health _ =>
    dsimp only [message, subject?]
    simp +decide [Json.isLine_described]

end Defect

namespace Report

variable {r : Report}

theorem isLine_message_iff {d : Defect} (found : d ∈ r.assess.defects) :
    IsLine d.message ↔ ∀ name ∈ d.subject?, IsLine name := by
  obtain ⟨names, lacks, rfl⟩ | rfl | ⟨site, flaw⟩ := defect_cases found
  · exact iff_of_true (Defect.isLine_listing (by decide) lacks (by decide))
      fun _ none => nomatch none
  · exact iff_of_true (by decide) fun _ none => nomatch none
  · exact Defect.isLine_message_of_flaw flaw

/-- Each reason is a line if and only if no name that it starts with holds a newline. -/
theorem lines_reasons_iff : (∀ reason ∈ r.assess.reasons, lines reason = [reason]) ↔
    ∀ d ∈ r.assess.defects, ∀ name ∈ d.subject?, IsLine name := by
  rw [Assessment.reasons, List.forall_mem_map]
  refine forall₂_congr fun d found => ?_
  rw [lines_eq_self_iff d.message_ne_empty, isLine_message_iff found]

end Report

/-- The advisory is a line if and only if the collectors that it names are. -/
theorem Advisory.lines_message_iff (a : Advisory) :
    lines a.message = [a.message] ↔ ∀ label ∈ a.collectors.take sample, IsLine label := by
  have dots : IsLine (if sample < a.collectors.length then "..." else "") := by split <;> decide
  have filled : a.message ≠ "" := by simp [message]
  rw [lines_eq_self_iff filled]
  dsimp only [message]
  simp +decide [isLine_intercalate, dots]

/-! ## 4. Every report -/

namespace Report

/-- What a report can do to the lines that are read. For every report and scenario, the text of the
verdict consists of a line for each check, an empty line and the tally, and the summary of its
header, the host if it is known, the health score, the anomalies and the recommendations, a line
each, unless a string that is shown as it is holds a newline; then it does not. The same goes for
the reasons of validation and the advisory, each of which should be a line. -/
theorem lines_faithful_iff (r : Report) :
    (∀ s : Scenario, lines (s.run r).text = (s.run r).rows ↔
      ∀ text, s.Quotes r text → IsLine text) ∧
    (∀ s : Scenario, lines (r.summaryText s) = r.summaryRows s ↔
      ∀ text, r.SummaryQuotes text → IsLine text) ∧
    ((∀ reason ∈ r.assess.reasons, lines reason = [reason]) ↔
      ∀ d ∈ r.assess.defects, ∀ name ∈ d.subject?, IsLine name) ∧
    ∀ a, r.assess.advisory = some a →
      (lines a.message = [a.message] ↔
        ∀ label ∈ a.collectors.take Advisory.sample, IsLine label) :=
  ⟨fun _ => Scenario.lines_text_iff, fun _ => lines_summaryText_iff, lines_reasons_iff,
    fun a _ => a.lines_message_iff⟩

/-- A report with a host and a collector that has errors only. -/
def quietHost : Report :=
  ⟨.object [
    ("categories", .object [("cpu", .array [.object [("collector", .string "top"),
      ("errors", .array [.null])]])]),
    ("metadata", .object [("hostname", .string "web-1")]),
    ("summary", .object [("health_score", .bool true)])], by decide⟩

theorem lines_faithful_of_quietHost :
    lines (Scenario.diskFlood.run quietHost).text = (Scenario.diskFlood.run quietHost).rows ∧
    lines (quietHost.summaryText .diskFlood) = quietHost.summaryRows .diskFlood ∧
    (∀ reason ∈ quietHost.assess.reasons, lines reason = [reason]) ∧
    quietHost.assess.advisory = some ⟨["top"]⟩ ∧
    lines (Advisory.message ⟨["top"]⟩) = [Advisory.message ⟨["top"]⟩] := by
  obtain ⟨verdict, summary, reasons, advisory⟩ := lines_faithful_iff quietHost
  refine ⟨(verdict .diskFlood).2 ?_, (summary .diskFlood).2 ?_, reasons.2 (by decide), rfl,
    (advisory ⟨["top"]⟩ rfl).2 (by decide)⟩
  · rintro text (⟨-, score⟩ | _ | _)
    cases score
  · rintro text (⟨⟨found⟩ | ⟨-, found⟩ | ⟨-, found⟩⟩ | score | ⟨listed, -⟩ | ⟨listed, -⟩)
    · obtain rfl : "web-1" = text := Option.some.inj found
      decide
    · cases found
    · cases found
    · cases score
    · cases listed
    · cases listed

/-- A score that brings a tally of its own, and a collector with a newline in its name. -/
def forgedTally : Report :=
  ⟨.object [
    ("categories", .object [("cpu", .array [.object [("category", .string "cpu"),
      ("collector", .string "top\nOK: report valid"), ("errors", .array [.null]),
      ("tier", .null)]])]),
    ("metadata", .object []),
    ("summary", .object [
      ("health_score", .string "10)\n\n  Result: 2/2 checks passed\n(")])], by decide⟩

/-- Each of the four can be forged: this run fails, and reads as if all its checks had passed. -/
theorem forgedTally_breaks_lines :
    lines (Scenario.diskFlood.run forgedTally).text ≠ (Scenario.diskFlood.run forgedTally).rows ∧
    lines (forgedTally.summaryText .diskFlood) ≠ forgedTally.summaryRows .diskFlood ∧
    (∃ reason ∈ forgedTally.assess.reasons, lines reason ≠ [reason]) ∧
    (∃ a, forgedTally.assess.advisory = some a ∧ lines a.message ≠ [a.message]) ∧
    "  Result: 2/2 checks passed" ∈ lines (Scenario.diskFlood.run forgedTally).text ∧
    (Scenario.diskFlood.run forgedTally).exitStatus ≠ 0 := by
  refine ⟨fun same => ?_, fun same => ?_, ⟨_, .tail _ (.tail _ (.head _)), by decide +kernel⟩,
    ⟨_, rfl, by decide +kernel⟩, ?_, by decide +kernel⟩
  · exact absurd (Scenario.lines_text_iff.1 same _ (.score (by decide) rfl)) (by decide)
  · exact absurd (lines_summaryText_iff.1 same _ (.score rfl)) (by decide)
  · rw [Verdict.text_eq_unlines, lines_unlines_eq, List.mem_flatMap]
    exact ⟨Verdict.checkRow (Check.healthBelow forgedTally 90), .tail _ (.head _),
      by decide +kernel⟩

end Report

end HealthReport

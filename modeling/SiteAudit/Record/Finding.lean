import SiteAudit.Audit.Settings
import SiteAudit.Finding.Report
import SiteAudit.Record.Fields

/-!
# Stored findings, reports and settings

How the results of an audit and its settings are written as JSON, and how
they are read again. A finding without details has no field for them.
-/

namespace SiteAudit

open Record

/-- A severity as JSON: its name. -/
def Severity.toJson (s : Severity) : Json := .string s.name

/-- The severity that a value stores. -/
def Severity.ofJson? (value : Json) : Option Severity := (caseName? value).bind Severity.ofName?

/-- A VLAN as JSON. -/
def vlanToJson (vlan : UInt16) : Json := .nat vlan.toNat

/-- The field for details, if there are any. -/
def Finding.detailFields (details : Text.TextMap) : List (String × Json) :=
  if details.isEmpty then []
  else [("metadata", .object (details.entries.map fun (name, text) => (name, .string text)))]

/-- A finding as JSON. -/
def Finding.toJson (f : Finding) : Json :=
  .object <|
    [("type", .string f.kind.code),
      ("severity", f.severity.toJson),
      ("score_impact", .nat f.impact.toNat),
      ("message", .string f.message),
      ("description", .string f.description),
      ("rule_id", .ofOption .string f.ruleId),
      ("current_network", .ofOption .string f.currentNetwork),
      ("current_vlan", .ofOption vlanToJson f.currentVlan),
      ("recommended_network", .ofOption .string f.recommendedNetwork),
      ("recommended_vlan", .ofOption vlanToJson f.recommendedVlan)] ++
    Finding.detailFields f.details

/-- The finding that a value stores. -/
def Finding.ofJson? : Json → Option Finding :=
  record do
    let kind ← required "type" fun value => (caseName? value).bind FindingKind.ofCode?
    let severity ← required "severity" Severity.ofJson?
    let impact ← required "score_impact" uint32?
    let message ← required "message" text?
    let description ← required "description" text?
    let ruleId ← optional "rule_id" text?
    let currentNetwork ← optional "current_network" text?
    let currentVlan ← optional "current_vlan" uint16?
    let recommendedNetwork ← optional "recommended_network" text?
    let recommendedVlan ← optional "recommended_vlan" uint16?
    let details ← withDefault "metadata" Text.Sorted.empty textMap?
    return { kind, severity, impact, message, description, ruleId, currentNetwork, currentVlan,
             recommendedNetwork, recommendedVlan, details }

/-- The fields of a report, in their order. -/
def Report.jsonFields (r : Report) : List (String × Json) :=
  [("issues", .list Finding.toJson r.findings),
    ("score", .nat r.score.toNat),
    ("critical", .nat r.critical),
    ("recommended", .nat r.recommended),
    ("informational", .nat r.informational)]

/-- A report as JSON. -/
def Report.toJson (r : Report) : Json := .object r.jsonFields

/-- The report that a value stores. -/
def Report.ofJson? : Json → Option Report :=
  record do
    let findings ← required "issues" (list? Finding.ofJson?)
    let score ← required "score" uint32?
    let critical ← required "critical" uint64?
    let recommended ← required "recommended" uint64?
    let informational ← required "informational" uint64?
    return { findings, score, critical, recommended, informational }

/-- Settings as JSON. -/
def AuditSettings.toJson (s : AuditSettings) : Json :=
  .object
    [("min_severity", .ofOption Severity.toJson s.minSeverity),
      ("disabled_checks", .list (fun check => .string check.id) s.disabled),
      ("fail_on", .ofOption Severity.toJson s.failOn)]

/-- The settings that a value stores. -/
def AuditSettings.ofJson? : Json → Option AuditSettings :=
  record do
    let minSeverity ← optional "min_severity" Severity.ofJson?
    let disabled ← required "disabled_checks" <|
      list? fun value => (caseName? value).bind Check.ofId?
    let failOn ← optional "fail_on" Severity.ofJson?
    return { minSeverity, disabled := inRunOrder disabled, failOn }

end SiteAudit

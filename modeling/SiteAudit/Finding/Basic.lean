import SiteAudit.Finding.Kind
import SiteAudit.Text.Sorted

/-!
# Findings

One result of an audit: what was found, how urgent it is, and which rule and
network it is about. Further details are kept by name.
-/

namespace SiteAudit

/-- One result of an audit. -/
structure Finding where
  kind : FindingKind
  severity : Severity
  /-- The points it takes off the security score. -/
  impact : UInt32
  message : String
  /-- A short summary, which may be empty. -/
  description : String
  ruleId : Option String
  currentNetwork : Option String
  currentVlan : Option UInt16
  recommendedNetwork : Option String
  recommendedVlan : Option UInt16
  details : Text.TextMap
deriving DecidableEq

namespace Finding

/-- A finding with the severity and the impact of its kind, about nothing in particular. -/
def ofKind (kind : FindingKind) (message : String) : Finding where
  kind := kind
  severity := kind.severity
  impact := kind.impact
  message := message
  description := ""
  ruleId := none
  currentNetwork := none
  currentVlan := none
  recommendedNetwork := none
  recommendedVlan := none
  details := Text.Sorted.empty

/-- The finding with another severity and impact. -/
def withSeverity (f : Finding) (severity : Severity) (impact : UInt32) : Finding :=
  { f with severity, impact }

/-- The finding with a short summary. -/
def withDescription (f : Finding) (description : String) : Finding := { f with description }

/-- The finding about a rule. -/
def withRule (f : Finding) (ruleId : String) : Finding := { f with ruleId := some ruleId }

/-- The finding about a network. -/
def withCurrent (f : Finding) (name : String) (vlan : UInt16) : Finding :=
  { f with currentNetwork := some name, currentVlan := some vlan }

/-- The finding with a network to move to. -/
def withRecommended (f : Finding) (name : String) (vlan : UInt16) : Finding :=
  { f with recommendedNetwork := some name, recommendedVlan := some vlan }

/-- The finding with a detail. -/
def withDetail (f : Finding) (name text : String) : Finding :=
  { f with details := f.details.set name text }

end Finding

end SiteAudit

import SiteAudit.Finding.Severity
import SiteAudit.Text.Pieces

/-!
# Settings of an audit

Checks come in ten families, each with an identifier by which it can be
skipped. The settings say which families run, from which severity on
findings are kept, and from which severity on the audit counts as failed.
-/

namespace SiteAudit

/-- A family of checks. -/
inductive Check where
  | managementAccess
  | shadowing
  | permissive
  | orphaned
  | interVlanIsolation
  | internetBypass
  | isolationExceptions
  | infrastructurePlacement
  | networkConfiguration
  | exposure
deriving Repr, DecidableEq

/-- A setting that is not one of the values it may have. -/
structure InvalidSetting where
  setting : String
  value : String
  expected : String
deriving Repr, DecidableEq

/-- What is wrong with the setting, in one sentence. -/
def InvalidSetting.message (e : InvalidSetting) : String :=
  "Invalid " ++ e.setting ++ " value '" ++ e.value ++ "' (expected one of: " ++ e.expected ++ ")"

namespace Check

/-- The families in the order in which they run. -/
def all : List Check :=
  [managementAccess, shadowing, permissive, orphaned, interVlanIsolation, internetBypass,
    isolationExceptions, infrastructurePlacement, networkConfiguration, exposure]

/-- The identifier of a family of checks. -/
def id : Check → String
  | managementAccess => "management-access"
  | shadowing => "shadowing"
  | permissive => "permissive"
  | orphaned => "orphaned"
  | interVlanIsolation => "inter-vlan-isolation"
  | internetBypass => "internet-bypass"
  | isolationExceptions => "isolation-exceptions"
  | infrastructurePlacement => "infrastructure-placement"
  | networkConfiguration => "network-configuration"
  | exposure => "exposure"

/-- The family with exactly this identifier. -/
def ofId? (id : String) : Option Check := all.find? (·.id == id)

/-- The family of a text; blanks around it and ASCII letter case do not count. -/
def parse (text : String) : Except InvalidSetting Check :=
  match all.find? fun check => Text.sameAsciiFold check.id (Text.trim text) with
  | some check => .ok check
  | none => .error ⟨"check", text, Text.joinWith ", " (all.map id)⟩

theorem mem_all (check : Check) : check ∈ all := by cases check <;> decide

theorem ofId_id (check : Check) : ofId? check.id = some check := by cases check <;> decide

end Check

/-- The severity of a text, or which severities there are. -/
def Severity.parse (text : String) : Except InvalidSetting Severity :=
  match Severity.parse? text with
  | some severity => .ok severity
  | none => .error ⟨"severity", text, Text.joinWith ", " (Severity.all.map Severity.name)⟩

/-- How an audit is run and judged. -/
structure AuditSettings where
  /-- Findings below this severity are left out. -/
  minSeverity : Option Severity
  /-- Families of checks that do not run, in the order of `Check.all`. -/
  disabled : List Check
  /-- A finding of this severity makes the audit fail. -/
  failOn : Option Severity
deriving Repr, DecidableEq

namespace AuditSettings

/-- All checks run, all findings are kept, and none makes the audit fail. -/
def default : AuditSettings := ⟨none, [], none⟩

/-- The families of a list, each once, in the order in which they run. -/
def inRunOrder (checks : List Check) : List Check := Check.all.filter checks.contains

/-- Whether a family of checks runs. -/
def isEnabled (s : AuditSettings) (check : Check) : Bool := !s.disabled.contains check

/-- Whether findings of a severity are kept. -/
def keeps (s : AuditSettings) (severity : Severity) : Bool :=
  match s.minSeverity with
  | some min => severity.atLeast min
  | none => true

theorem mem_inRunOrder {checks : List Check} {check : Check} :
    check ∈ inRunOrder checks ↔ check ∈ checks := by
  simp [inRunOrder, Check.mem_all]

theorem inRunOrder_inRunOrder (checks : List Check) :
    inRunOrder (inRunOrder checks) = inRunOrder checks := by
  apply List.filter_congr
  intro check _
  simp [mem_inRunOrder]

end AuditSettings

end SiteAudit

import SiteAudit.Audit.Settings

/-!
# Configuration

What a user can set once instead of on every command line: how results are
shown, and the settings of the audit. Severities and checks are kept as
texts, so that a misspelled one is reported with the name of its field.

## Main results

* `settings_eq_ok_iff` — settings are valid if every field is.
-/

namespace SiteAudit

namespace Config

/-- How results are shown unless the command line says otherwise. -/
structure Defaults where
  output : String
  color : String
deriving Repr, DecidableEq

/-- The settings of the audit, as they are written. -/
structure AuditSection where
  minSeverity : Option String
  disabledChecks : List String
  failOn : Option String
deriving Repr, DecidableEq

/-- A field of the configuration with an invalid setting. -/
structure InvalidField where
  field : String
  reason : InvalidSetting
deriving Repr, DecidableEq

/-- What is wrong with the field, in one sentence. -/
def InvalidField.message (e : InvalidField) : String :=
  "invalid " ++ e.field ++ ": " ++ e.reason.message

/-- A result with the field that an error is about. -/
def inField (field : String) (result : Except InvalidSetting α) : Except InvalidField α :=
  result.mapError fun reason => ⟨field, reason⟩

/-- A severity that need not be given. -/
def severity? (field : String) : Option String → Except InvalidField (Option Severity)
  | none => .ok none
  | some text => (inField field (Severity.parse text)).map some

/-- The settings of the audit, or the first field that is invalid. -/
def AuditSection.settings (s : AuditSection) : Except InvalidField AuditSettings := do
  let minSeverity ← severity? "audit.min_severity" s.minSeverity
  let failOn ← severity? "audit.fail_on" s.failOn
  let disabled ← inField "audit.disabled_checks" (s.disabledChecks.mapM Check.parse)
  return { minSeverity, disabled := AuditSettings.inRunOrder disabled, failOn }

/-- The settings are valid exactly if every field is, and then they say what the fields say. -/
theorem AuditSection.settings_eq_ok_iff {s : AuditSection} {settings : AuditSettings} :
    s.settings = .ok settings ↔
      severity? "audit.min_severity" s.minSeverity = .ok settings.minSeverity ∧
        severity? "audit.fail_on" s.failOn = .ok settings.failOn ∧
        ∃ checks, s.disabledChecks.mapM Check.parse = .ok checks ∧
          settings.disabled = AuditSettings.inRunOrder checks := by
  rw [AuditSection.settings, inField]
  cases severity? "audit.min_severity" s.minSeverity with
  | error e => exact ⟨nofun, nofun⟩
  | ok minSeverity =>
    cases severity? "audit.fail_on" s.failOn with
    | error e => exact ⟨nofun, nofun⟩
    | ok failOn =>
      cases s.disabledChecks.mapM Check.parse with
      | error e => exact ⟨nofun, nofun⟩
      | ok checks =>
        constructor
        · intro h
          cases h
          exact ⟨rfl, rfl, checks, rfl, rfl⟩
        · obtain ⟨_, disabled, _⟩ := settings
          rintro ⟨hmin, hfail, _, hchecks, rfl⟩
          cases hmin
          cases hfail
          cases hchecks
          rfl

end Config

/-- A configuration. -/
structure Config where
  defaults : Config.Defaults
  audit : Config.AuditSection
deriving Repr, DecidableEq

/-- The configuration of a user who has set nothing. -/
def Config.default : Config := ⟨⟨"table", "auto"⟩, ⟨none, [], none⟩⟩

/-- The configuration without any setting changes nothing. -/
example : Config.default.audit.settings = .ok .default := rfl

end SiteAudit

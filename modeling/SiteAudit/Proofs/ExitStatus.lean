import SiteAudit.CommandLine.Disk
import SiteAudit.Proofs.CheckFamilies

/-!
# When an audit fails on its findings

Two settings look alike: from which severity on findings are reported, and from
which severity on they make the program fail.  The second is judged on the report,
so only a finding that both let pass makes the program fail: the threshold is
raised to the floor where the floor lies above it.

As long as every finding that reaches the threshold is reported, nothing is hidden,
the floor does not matter, and the program fails exactly if some family of checks
that runs has a finding of the threshold's severity.  With a higher floor it may end
as if there were no such finding.

All this is about audits that come to a report.  Where there are so many findings that
their points do not fit in 32 bits, the program ends with an error of its own.

## Main results

* `exitCode_audit_eq_overflow_iff`, `exitCode_audit_eq_ten_iff` — which audits have no
  report, and which findings make the others fail.
* `Loads.run_eq` — a command line that loads and validates ends as its audit does.
* `exit_status_of_audit` — when the program fails, and when the floor does not matter.
* `floor_hides_failure` — a floor above the threshold can hide the failure.
-/

namespace SiteAudit

/-! ## Thresholds -/

/-- What is as urgent as the more urgent of two severities is as urgent as both. -/
theorem Severity.atLeast_max {s a b : Severity} :
    s.atLeast (a.max b) = true ↔ s.atLeast a = true ∧ s.atLeast b = true := by
  cases a <;> cases b <;> cases s <;> decide

namespace AuditSettings

/-- The severity from which on a finding makes the program fail: the threshold, raised to the
floor. -/
def failsFrom? (s : AuditSettings) : Option Severity :=
  s.failOn.map fun threshold => s.minSeverity.elim threshold threshold.max

/-- Findings that reach the threshold are reported. -/
def ShowsFailures (s : AuditSettings) : Prop := ∀ threshold ∈ s.failOn, s.keeps threshold = true

variable {s : AuditSettings}

theorem failsFrom_eq_some_iff {level : Severity} :
    s.failsFrom? = some level ↔
      ∃ threshold, s.failOn = some threshold ∧ s.minSeverity.elim threshold threshold.max = level :=
  Option.map_eq_some_iff

/-- A finding reaches the raised threshold if it reaches the threshold and is reported. -/
theorem atLeast_raised_iff {threshold severity : Severity} :
    severity.atLeast (s.minSeverity.elim threshold threshold.max) = true ↔
      severity.atLeast threshold = true ∧ s.keeps severity = true := by
  cases hfloor : s.minSeverity with
  | none => simp [keeps, hfloor]
  | some floor => simp [keeps, hfloor, Severity.atLeast_max]

/-- Where all failures are reported, the threshold is not raised. -/
theorem ShowsFailures.failsFrom_eq (h : s.ShowsFailures) : s.failsFrom? = s.failOn := by
  cases hfail : s.failOn with
  | none => simp [failsFrom?, hfail]
  | some threshold =>
      have hkeeps := h threshold hfail
      cases hfloor : s.minSeverity with
      | none => simp [failsFrom?, hfail, hfloor]
      | some floor =>
          have hreaches : threshold.atLeast floor = true := by
            simpa [keeps, hfloor] using hkeeps
          have hmax : threshold.max floor = threshold := by
            revert hreaches
            cases threshold <;> cases floor <;> decide
          simp [failsFrom?, hfail, hfloor, hmax]

end AuditSettings

/-! ## Audits -/

/-- Some family of checks that runs has a finding of this severity or a more urgent one, whether
it is reported or not. -/
def Audit.Finds (site : Site) (settings : AuditSettings) (level : Severity) : Prop :=
  ∃ check, settings.isEnabled check = true ∧
    ∃ f ∈ runCheck site check, f.severity.atLeast level = true

namespace CommandLine

variable {time : String} {p : Presentation} {settings : AuditSettings} {site : Site}

/-- With a report, the program ends with ten or with zero: an audit only fails on its findings. -/
theorem exitCode_auditReport {report : Report} :
    (auditReport time p settings report).exitCode =
      if (auditReport time p settings report).failure.isSome then 10 else 0 := by
  rw [Outcome.exitCode, auditReport]
  cases settings.failOn.filter report.hasAtLeast <;> rfl

/-- An audit whose points fit ends as its report says. -/
theorem exists_audit_eq_of_fits (time : String) (p : Presentation)
    (h : Report.Fits (Audit.run site settings)) :
    ∃ report, report.findings = Audit.run site settings ∧
      audit time p settings site = auditReport time p settings report := by
  obtain ⟨report, hreport⟩ := h.exists_report
  obtain ⟨deduction, _, rfl⟩ := Report.ofFindings_eq_some_iff.1 hreport
  exact ⟨_, rfl, by rw [audit, hreport]⟩

theorem audit_eq_of_not_fits (h : ¬Report.Fits (Audit.run site settings)) :
    audit time p settings site = .ofFailure .pointsOverflow := by
  rw [audit, Report.ofFindings_eq_none_iff.2 h]

theorem exitCode_audit_eq_ten_or (h : Report.Fits (Audit.run site settings)) :
    (audit time p settings site).exitCode = 10 ∨ (audit time p settings site).exitCode = 0 := by
  obtain ⟨report, _, hout⟩ := exists_audit_eq_of_fits time p h
  rw [hout, exitCode_auditReport]
  split
  · exact Or.inl rfl
  · exact Or.inr rfl

/-- Without a report are the audits whose points do not fit. -/
theorem exitCode_audit_eq_overflow_iff :
    (audit time p settings site).exitCode = 101 ↔ ¬Report.Fits (Audit.run site settings) := by
  constructor
  · intro hcode hfits
    have hother : (audit time p settings site).exitCode = 10 ∨
        (audit time p settings site).exitCode = 0 := exitCode_audit_eq_ten_or hfits
    rcases hother with h | h <;> rw [h] at hcode <;> cases hcode
  · intro hover
    rw [audit_eq_of_not_fits hover]
    rfl

/-- Which findings make an audit fail: the ones that reach the raised threshold. -/
theorem exitCode_audit_eq_ten_iff (h : Report.Fits (Audit.run site settings)) :
    (audit time p settings site).exitCode = 10 ↔
      ∃ level, settings.failsFrom? = some level ∧ Audit.Finds site settings level := by
  obtain ⟨report, hfindings, hout⟩ := exists_audit_eq_of_fits time p h
  have hcode : (audit time p settings site).exitCode = 10 ↔
      (auditReport time p settings report).failure.isSome = true := by
    rw [hout, exitCode_auditReport]
    split <;> simp [*]
  rw [hcode, audit_fails_iff, hfindings]
  simp only [AuditSettings.failsFrom_eq_some_iff]
  constructor
  · rintro ⟨threshold, hfail, f, hf, hreaches⟩
    obtain ⟨⟨check, hcheck, hfound⟩, hkept⟩ := Audit.mem_run.1 hf
    exact ⟨_, ⟨threshold, hfail, rfl⟩, check, hcheck, f, hfound,
      AuditSettings.atLeast_raised_iff.2 ⟨hreaches, hkept⟩⟩
  · rintro ⟨_, ⟨threshold, hfail, rfl⟩, check, hcheck, f, hfound, hreaches⟩
    obtain ⟨hreaches, hkept⟩ := AuditSettings.atLeast_raised_iff.1 hreaches
    exact ⟨threshold, hfail, f, Audit.mem_run.2 ⟨⟨check, hcheck, hfound⟩, hkept⟩, hreaches⟩

/-! ## Command lines -/

/-- A command line asks for an audit, and what the audit needs is there and valid: the
configuration, the way to show results, the settings, and the documents of the site. -/
inductive Loads (s : Surroundings) (arguments : List String) (settings : AuditSettings)
    (site : Site) : Prop
  | intro (general : GeneralOptions) (files : SiteFiles) (minSeverity : Option String)
      (skip : List String) (failOn : Option String) (config : Config) (p : Presentation)
      (invocation : Invocation.ofArguments s.environment arguments =
        .ok ⟨general, .audit files minSeverity skip failOn⟩)
      (configuration : s.config (general.config.getD s.configPath) = .ok config)
      (presentation : Presentation.of s general config = .ok p)
      (effective : auditSettings config minSeverity skip failOn = .ok settings)
      (documents : s.site files = .ok site)

/-- A command line that loads and validates ends as its audit does. -/
theorem Loads.run_eq {s : Surroundings} {arguments : List String}
    (h : Loads s arguments settings site) :
    ∃ p, run s arguments = audit s.time p settings site := by
  obtain ⟨general, files, minSeverity, skip, failOn, config, p, hinvocation, hconfig, hpresentation,
    hsettings, hsite⟩ := h
  refine ⟨p, ?_⟩
  rw [run, hinvocation]
  show Outcome.ofResult (carryOut s general (.audit files minSeverity skip failOn)) = _
  rw [carryOut, onSite, hconfig]
  show Outcome.ofResult (Presentation.of s general config >>= _) = _
  rw [hpresentation]
  show Outcome.ofResult (auditSettings config minSeverity skip failOn >>= _) = _
  rw [hsettings]
  show Outcome.ofResult (s.site files >>= _) = _
  rw [hsite]
  rfl

section Runs

variable {s : Surroundings} {arguments : List String}

theorem Loads.exitCode_eq_overflow_iff (h : Loads s arguments settings site) :
    (run s arguments).exitCode = 101 ↔ ¬Report.Fits (Audit.run site settings) := by
  obtain ⟨p, hrun⟩ := h.run_eq
  rw [hrun]
  exact exitCode_audit_eq_overflow_iff

theorem Loads.exitCode_eq_ten_or (h : Loads s arguments settings site)
    (hfits : Report.Fits (Audit.run site settings)) :
    (run s arguments).exitCode = 10 ∨ (run s arguments).exitCode = 0 := by
  obtain ⟨p, hrun⟩ := h.run_eq
  rw [hrun]
  exact exitCode_audit_eq_ten_or hfits

theorem Loads.exitCode_eq_ten_iff (h : Loads s arguments settings site)
    (hfits : Report.Fits (Audit.run site settings)) :
    (run s arguments).exitCode = 10 ↔
      ∃ level, settings.failsFrom? = some level ∧ Audit.Finds site settings level := by
  obtain ⟨p, hrun⟩ := h.run_eq
  rw [hrun]
  exact exitCode_audit_eq_ten_iff hfits

theorem Loads.exitCode_eq_ten_iff_of_shows (h : Loads s arguments settings site)
    (hfits : Report.Fits (Audit.run site settings)) (hshows : settings.ShowsFailures) :
    (run s arguments).exitCode = 10 ↔
      ∃ threshold, settings.failOn = some threshold ∧ Audit.Finds site settings threshold := by
  rw [h.exitCode_eq_ten_iff hfits, hshows.failsFrom_eq]

/-- **When the program fails on the findings of an audit.**  Take a command line that asks for an
audit, and that loads and validates.  Only where the points of what it reports do not fit in 32
bits, which takes more than two hundred and eighty-six million findings, does the program end with
an error of its own.  Otherwise it ends with ten exactly if some family of checks that runs has a
finding that reaches the threshold, raised to the floor, and else with zero.  Where all findings
that reach the threshold are reported, the floor does not matter: the program ends with ten exactly
if there is a finding that reaches the threshold itself, and just like any other run with the same
settings but for a floor that does not hide failures either. -/
theorem exit_status_of_audit (h : Loads s arguments settings site) :
    ((run s arguments).exitCode = 101 ↔ ¬Report.Fits (Audit.run site settings)) ∧
      (¬Report.Fits (Audit.run site settings) → 286331153 < (Audit.run site settings).length) ∧
      (Report.Fits (Audit.run site settings) →
        ((run s arguments).exitCode = 10 ↔
          ∃ level, settings.failsFrom? = some level ∧ Audit.Finds site settings level) ∧
        ((run s arguments).exitCode = 10 ∨ (run s arguments).exitCode = 0) ∧
        (settings.ShowsFailures →
          ((run s arguments).exitCode = 10 ↔
            ∃ threshold, settings.failOn = some threshold ∧
              Audit.Finds site settings threshold) ∧
          ∀ other otherArguments floor,
            Loads other otherArguments { settings with minSeverity := floor } site →
            AuditSettings.ShowsFailures { settings with minSeverity := floor } →
            Report.Fits (Audit.run site { settings with minSeverity := floor }) →
            (run other otherArguments).exitCode = (run s arguments).exitCode)) := by
  refine ⟨h.exitCode_eq_overflow_iff,
    fun hover => Nat.lt_of_not_le fun hfew => hover (Audit.fits_run hfew),
    fun hfits => ⟨h.exitCode_eq_ten_iff hfits, h.exitCode_eq_ten_or hfits, fun hshows =>
      ⟨h.exitCode_eq_ten_iff_of_shows hfits hshows, ?_⟩⟩⟩
  intro other otherArguments floor hother hshows' hfits'
  -- Neither the threshold nor the checks that run depend on the floor.
  have hsame : (run other otherArguments).exitCode = 10 ↔ (run s arguments).exitCode = 10 :=
    (hother.exitCode_eq_ten_iff_of_shows hfits' hshows').trans
      (h.exitCode_eq_ten_iff_of_shows hfits hshows).symm
  rcases hother.exitCode_eq_ten_or hfits' with hten | hzero
  · rw [hten, hsame.1 hten]
  · rcases h.exitCode_eq_ten_or hfits with hten | hzero'
    · rw [hten, hsame.2 hten]
    · rw [hzero, hzero']

end Runs

/-! ## A failure that is hidden -/

/-- Allows all traffic to one web site, which an audit recommends to narrow down. -/
def openRule : Rule where
  id := "open"
  name := ""
  action := .allow
  enabled := true
  predefined := false
  index := 0
  protocol := .everything
  stateType := .all
  states := Text.Sorted.empty
  source := .everything
  destination := ⟨.web ["example.com"], none, none, false⟩
  ruleset := none
  hitCount := none

/-- The export of a gateway with this rule and nothing else. -/
def openGateway : Json :=
  .array
    [.object
      [("type", .string "udm"),
        ("policies", .array
          [.object
            [("_id", .string "open"), ("action", .string "ALLOW"),
              ("destination", .object
                [("matching_target", .string "WEB"), ("web_domains", .string "example.com")])]])]]

/-- The site of the export. -/
def openSite : Site := .ofRules [openRule] []

/-- A disk with the export, and nothing set in the environment. -/
def openSurroundings : Surroundings :=
  .ofDisk ⟨[(["devices.json"], Json.compact openGateway)]⟩ [] ""

/-- An audit that is to fail on recommendations, with a floor. -/
def strictAudit (floor : Severity) : List String :=
  ["audit", "--devices", "devices.json", "--min-severity", floor.name, "--fail-on", "recommended"]

/-- The settings of this audit. -/
def strictSettings (floor : Severity) : AuditSettings := ⟨some floor, [], some .recommended⟩

-- The export is written and read again, character by character.
set_option maxRecDepth 20000 in
theorem openSurroundings_site :
    openSurroundings.site ⟨"devices.json", none, none, none, none, none⟩ = .ok openSite := by
  have hdocument : openSurroundings.document "devices.json" = .ok openGateway := by rfl
  have hsite : Site.ofDocuments ⟨openGateway, none, none, none, none, none⟩ = openSite := by rfl
  show (openSurroundings.document "devices.json" >>= _) = _
  rw [hdocument, ← hsite]
  rfl

theorem strictAudit_loads (floor : Severity) :
    Loads openSurroundings (strictAudit floor) (strictSettings floor) openSite := by
  have hinvocation : Invocation.ofArguments [] (strictAudit floor) =
      .ok ⟨⟨none, none, none, false⟩, .audit ⟨"devices.json", none, none, none, none, none⟩
        (some floor.name) [] (some "recommended")⟩ := by
    cases floor <;> rfl
  have hconfig : openSurroundings.config "./.config/uniaudit/config.toml" = .ok .default := by
    have henvironment : Config.environmentLayer [] = .table [] := by
      rw [Config.environmentLayer, List.mergeSort_nil]
      rfl
    show (Config.ofLayers? [.table [], Config.environmentLayer []]).elim _ _ = _
    rw [henvironment]
    rfl
  have hsettings : auditSettings .default (some floor.name) [] (some "recommended") =
      .ok (strictSettings floor) := by
    cases floor <;> rfl
  exact .intro _ _ _ _ _ _ ⟨.table, false, false⟩ hinvocation hconfig rfl hsettings
    openSurroundings_site

theorem openSite_finds (floor : Severity) :
    Audit.Finds openSite (strictSettings floor) .recommended := by
  have hfinds : (Audit.runCheck openSite .permissive).any
      (·.severity.atLeast .recommended) = true := by rfl
  exact ⟨.permissive, rfl, List.any_eq_true.1 hfinds⟩

theorem openSite_fits (floor : Severity) :
    Report.Fits (Audit.run openSite (strictSettings floor)) := by
  have hfew : (Audit.run openSite (strictSettings floor)).length ≤ 1 := by
    rw [openSite, Audit.run_single openRule rfl]
    exact List.length_filter_le _ _
  exact Audit.fits_run (by omega)

theorem exit_status_of_audit_strictAudit :
    (strictSettings .recommended).ShowsFailures ∧
      (run openSurroundings (strictAudit .recommended)).exitCode = 10 ∧
      (run openSurroundings (strictAudit .informational)).exitCode = 10 := by
  have hshows : ∀ floor, Severity.recommended.atLeast floor = true →
      (strictSettings floor).ShowsFailures := by
    intro floor hfloor threshold hthreshold
    cases hthreshold
    exact hfloor
  obtain ⟨_, _, hends⟩ := exit_status_of_audit (strictAudit_loads .recommended)
  obtain ⟨_, _, hfloor⟩ := hends (openSite_fits .recommended)
  obtain ⟨hten, hsame⟩ := hfloor (hshows .recommended rfl)
  have hrun := hten.2 ⟨.recommended, rfl, openSite_finds .recommended⟩
  have hother := hsame _ _ _ (strictAudit_loads .informational) (hshows .informational rfl)
    (openSite_fits .informational)
  exact ⟨hshows .recommended rfl, hrun, hother.trans hrun⟩

/-- **A floor above the threshold hides a failure.**  The site has a recommendation, and the audit
is to fail on recommendations.  With the floor at critical findings the program ends with zero,
although the same run with the floor at recommendations ends with ten. -/
theorem floor_hides_failure :
    Loads openSurroundings (strictAudit .critical) (strictSettings .critical) openSite ∧
      Loads openSurroundings (strictAudit .recommended) (strictSettings .recommended) openSite ∧
      (strictSettings .critical).failOn = some .recommended ∧
      Audit.Finds openSite (strictSettings .critical) .recommended ∧
      (run openSurroundings (strictAudit .critical)).exitCode = 0 ∧
      (run openSurroundings (strictAudit .recommended)).exitCode = 10 := by
  have hhidden : Audit.run openSite (strictSettings .critical) = [] := by
    rw [openSite, Audit.run_single openRule rfl]
    rfl
  have hzero : (run openSurroundings (strictAudit .critical)).exitCode = 0 := by
    obtain ⟨p, hrun⟩ := (strictAudit_loads .critical).run_eq
    obtain ⟨report, hfindings, hout⟩ :=
      exists_audit_eq_of_fits openSurroundings.time p (openSite_fits .critical)
    rw [hrun, hout, exitCode_auditReport, if_neg]
    intro hfails
    obtain ⟨_, _, f, hf, _⟩ := audit_fails_iff.1 hfails
    rw [hfindings, hhidden] at hf
    cases hf
  have hten := ((strictAudit_loads .recommended).exitCode_eq_ten_iff
    (openSite_fits .recommended)).2 ⟨.recommended, rfl, openSite_finds .recommended⟩
  exact ⟨strictAudit_loads .critical, strictAudit_loads .recommended, rfl,
    openSite_finds .critical, hzero, hten⟩

end CommandLine

end SiteAudit

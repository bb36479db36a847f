import SiteAudit.Proofs.AddedBlocks
import SiteAudit.Proofs.ScoreSums

/-!
# What findings count for

A finding has a kind, a severity and points that it takes off the score, and
these three are set in several places: severities and points in one table each,
and in two checks for a finding of its own.  A severity without points, or points
without one, would make a report contradict itself.

The families of checks are gone through once, and everything that each of them can
say is put down in a table.  Facts about findings of all sites then are facts about
this table, which is finite.

## Main results

* `Audit.grade_mem_of_mem_runCheck` — the table has what the checks say.
* `Check.isCoherent_of_mem_grades`, `Check.family_of_mem_grades` — what the table says
  of severities and points, and that no two families share a kind.
* `Audit.Isolation.exists_pair_of_missing` — where the severity of networks that are
  not kept apart comes from.
* `Audit.score_run` — a floor at recommendations does not change the score.
* `Audit.fits_run` — how many findings an audit may have to be sure of a score.
* `Audit.severity_and_points_agree` — all of it together.
-/

namespace SiteAudit

/-! ## Grades -/

/-- What a finding counts for. -/
structure Grade where
  kind : FindingKind
  severity : Severity
  impact : UInt32
deriving Repr, DecidableEq

/-- The grade of findings of a kind, unless a check sets another. -/
def FindingKind.grade (kind : FindingKind) : Grade := ⟨kind, kind.severity, kind.impact⟩

/-- Points go with urgency, and only two kinds have findings of more than one grade. -/
structure Grade.IsCoherent (g : Grade) : Prop where
  points : g.impact = 0 ↔ g.severity = .informational
  usual : g.kind ≠ .missingIsolation → g.kind ≠ .allowExceptionPattern → g = g.kind.grade
  missing : g.kind = .missingIsolation →
    g.severity = .critical ∧ g.impact = 15 ∨ g.severity = .recommended ∧ g.impact = 5
  exception : g.kind = .allowExceptionPattern →
    g.severity = .informational ∧ g.impact = 0 ∨ g.severity = .recommended ∧ g.impact = 3

namespace Finding

variable (f : Finding)

/-- The grade of a finding. -/
def grade : Grade := ⟨f.kind, f.severity, f.impact⟩

@[simp] theorem grade_ofKind (kind : FindingKind) (message : String) :
    (ofKind kind message).grade = kind.grade := rfl

@[simp] theorem grade_withSeverity (severity : Severity) (impact : UInt32) :
    (f.withSeverity severity impact).grade = ⟨f.kind, severity, impact⟩ := rfl

@[simp] theorem grade_withDescription (text : String) :
    (f.withDescription text).grade = f.grade := rfl

@[simp] theorem grade_withRule (id : String) : (f.withRule id).grade = f.grade := rfl

@[simp] theorem grade_withCurrent (name : String) (vlan : UInt16) :
    (f.withCurrent name vlan).grade = f.grade := rfl

@[simp] theorem grade_withRecommended (name : String) (vlan : UInt16) :
    (f.withRecommended name vlan).grade = f.grade := rfl

@[simp] theorem grade_withDetail (name text : String) :
    (f.withDetail name text).grade = f.grade := rfl

end Finding

/-! ## The table -/

/-- The family of checks that has findings of a kind. -/
def FindingKind.family : FindingKind → Check
  | mgmtMissingUnifiAccess | mgmtMissingAfcAccess | mgmtMissingNtpAccess
  | mgmtMissing5gAccess => .managementAccess
  | denyShadowsAllow | allowSubvertsDeny | allowExceptionPattern => .shadowing
  | permissiveRule | broadRule => .permissive
  | orphanedRule => .orphaned
  | missingIsolation | isolationBypassed => .interVlanIsolation
  | internetBlockBypassed => .internetBypass
  | networkIsolationException => .isolationExceptions
  | infraNotOnMgmt => .infrastructurePlacement
  | securityNetworkNotIsolated | mgmtNetworkNotIsolated | iotNetworkNotIsolated
  | securityNetworkHasInternet | mgmtNetworkHasInternet | dnsSharedServers | mgmtDhcpEnabled
  | routingEnabled => .networkConfiguration
  | upnpEnabled | portForwardToIsolated | portForwardUnrestricted => .exposure

/-- The grades of what a family of checks says. -/
def Check.grades : Check → List Grade
  | managementAccess => Requirement.all.map (·.finding.grade)
  | shadowing =>
    [FindingKind.allowSubvertsDeny.grade, FindingKind.denyShadowsAllow.grade,
      FindingKind.allowExceptionPattern.grade, ⟨.allowExceptionPattern, .recommended, 3⟩]
  | permissive => [FindingKind.permissiveRule.grade, FindingKind.broadRule.grade]
  | orphaned => [FindingKind.orphanedRule.grade]
  | interVlanIsolation =>
    [FindingKind.isolationBypassed.grade, ⟨.missingIsolation, .critical, 15⟩,
      ⟨.missingIsolation, .recommended, 5⟩]
  | internetBypass => [FindingKind.internetBlockBypassed.grade]
  | isolationExceptions => [FindingKind.networkIsolationException.grade]
  | infrastructurePlacement => [FindingKind.infraNotOnMgmt.grade]
  | networkConfiguration =>
    [FindingKind.securityNetworkNotIsolated.grade, FindingKind.securityNetworkHasInternet.grade,
      FindingKind.mgmtNetworkNotIsolated.grade, FindingKind.mgmtNetworkHasInternet.grade,
      FindingKind.mgmtDhcpEnabled.grade, FindingKind.iotNetworkNotIsolated.grade,
      FindingKind.dnsSharedServers.grade, FindingKind.routingEnabled.grade]
  | exposure =>
    [FindingKind.upnpEnabled.grade, FindingKind.portForwardToIsolated.grade,
      FindingKind.portForwardUnrestricted.grade]

theorem Check.isCoherent_of_mem_grades {check : Check} {g : Grade} (h : g ∈ check.grades) :
    g.IsCoherent := by
  have hpoints : ∀ g ∈ check.grades, g.impact = 0 ↔ g.severity = .informational := by
    cases check <;> decide
  have husual : ∀ g ∈ check.grades, g.kind ≠ .missingIsolation →
      g.kind ≠ .allowExceptionPattern → g = g.kind.grade := by
    cases check <;> decide
  have hmissing : ∀ g ∈ check.grades, g.kind = .missingIsolation →
      g.severity = .critical ∧ g.impact = 15 ∨ g.severity = .recommended ∧ g.impact = 5 := by
    cases check <;> decide
  have hexception : ∀ g ∈ check.grades, g.kind = .allowExceptionPattern →
      g.severity = .informational ∧ g.impact = 0 ∨ g.severity = .recommended ∧ g.impact = 3 := by
    cases check <;> decide
  exact ⟨hpoints g h, husual g h, hmissing g h, hexception g h⟩

/-- What a family of checks says is of kinds of its own. -/
theorem Check.family_of_mem_grades {check : Check} {g : Grade} (h : g ∈ check.grades) :
    g.kind.family = check := by
  have hall : ∀ g ∈ check.grades, g.kind.family = check := by cases check <;> decide
  exact hall g h

/-- What a family of checks says costs fifteen points at most. -/
theorem Check.impact_le_of_mem_grades {check : Check} {g : Grade} (h : g ∈ check.grades) :
    g.impact.toNat ≤ 15 := by
  have hall : ∀ g ∈ check.grades, g.impact.toNat ≤ 15 := by cases check <;> decide
  exact hall g h

namespace Audit

variable {site : Site} {f : Finding}

/-! ## One family at a time -/

theorem Shadowing.grade_dead (r earlier : Rule) :
    (dead r earlier).grade =
      if r.isBlock then FindingKind.allowSubvertsDeny.grade
      else FindingKind.denyShadowsAllow.grade := by
  simp only [dead]
  split <;> rfl

theorem Shadowing.grade_exception (site : Site) (allow block : Rule) :
    (exception site allow block).grade =
      if opensSensitive site allow then ⟨.allowExceptionPattern, .recommended, 3⟩
      else FindingKind.allowExceptionPattern.grade := by
  simp only [exception]
  split <;> rfl

theorem Shadowing.grade_mem (h : f ∈ Shadowing.findings site) :
    f.grade ∈ Check.grades .shadowing := by
  rcases List.mem_append.1 h with hdead | hexception
  · obtain ⟨⟨r, earlier⟩, _, rfl⟩ := List.mem_map.1 hdead
    rw [grade_dead]
    split <;> simp [Check.grades]
  · obtain ⟨⟨allow, block⟩, _, rfl⟩ := List.mem_map.1 hexception
    rw [grade_exception]
    split <;> simp [Check.grades]

theorem ManagementAccess.grade_mem (h : f ∈ ManagementAccess.findings site) :
    f.grade ∈ Check.grades .managementAccess := by
  obtain ⟨n, _, hf⟩ := List.mem_flatMap.1 h
  obtain ⟨req, _, rfl⟩ := List.mem_map.1 hf
  refine List.mem_map.2 ⟨req, ?_, rfl⟩
  cases req <;> decide

theorem Breadth.grade_mem (h : f ∈ Breadth.findings site) : f.grade ∈ Check.grades .permissive := by
  obtain ⟨r, _, hr⟩ := List.mem_filterMap.1 h
  obtain ⟨extent, _, rfl⟩ := Option.map_eq_some_iff.1 hr
  cases extent <;> simp [Breadth.finding, Check.grades]

theorem Orphans.grade_mem (h : f ∈ Orphans.findings site) : f.grade ∈ Check.grades .orphaned := by
  rw [Orphans.findings] at h
  split at h
  · cases h
  · obtain ⟨r, _, hr⟩ := List.mem_filterMap.1 h
    simp only [finding?] at hr
    split at hr
    · cases hr
      simp [finding, Check.grades]
    · cases hr

/-- Purposes that should not mix never do so for information only. -/
theorem separation_eq_some {a b : Purpose} {severity : Severity}
    (h : a.separation? b = some severity) : severity = .critical ∨ severity = .recommended := by
  rw [Purpose.separation?] at h
  split at h
  · cases h
  · split at h
    · exact Or.inl (Option.some.inj h).symm
    · split at h
      · exact Or.inl (Option.some.inj h).symm
      · split at h
        · exact Or.inr (Option.some.inj h).symm
        · cases h

@[simp] theorem Isolation.grade_bypassed (text : String) (r : Rule) (a b : Network) :
    (bypassed text r a b).grade = FindingKind.isolationBypassed.grade := by simp [bypassed]

@[simp] theorem Isolation.grade_missing (severity : Severity) (a b : Network) :
    (missing severity a b).grade = ⟨.missingIsolation, severity, impact severity⟩ := by
  simp [missing, Finding.ofKind]

theorem Isolation.grade_mem_of_finding {a b : Network} (h : finding? site a b = some f) :
    f.grade ∈ Check.grades .interVlanIsolation := by
  obtain ⟨_, severity, hseverity, hreason⟩ := finding_eq_some_iff.1 h
  rcases hreason with ⟨r, _, rfl⟩ | ⟨_, r, _, rfl⟩ | ⟨_, _, _, rfl⟩
  · simp [Check.grades]
  · simp [Check.grades]
  · rcases separation_eq_some hseverity with rfl | rfl
    · simp [impact, Check.grades]
    · simp [impact, Check.grades]

/-- What says that isolation is missing names both networks by their ids. -/
theorem Isolation.details_missing (severity : Severity) (a b : Network) :
    (missing severity a b).details.entries =
      [("network_a_id", a.id), ("network_b_id", b.id)] := by
  have hlt : ¬"network_b_id" < "network_a_id" := by decide
  have hne : "network_b_id" ≠ "network_a_id" := by decide
  show Text.Sorted.insertEntry _ ("network_b_id", b.id) [("network_a_id", a.id)] = _
  rw [Text.Sorted.insertEntry, if_neg hlt, if_neg hne]
  rfl

/-- Where isolation is missing, the purposes of the two networks say how badly. -/
theorem Isolation.exists_pair_of_missing (h : f ∈ Isolation.findings site)
    (hkind : f.kind = .missingIsolation) :
    ∃ a b, (a, b) ∈ pairs site.networks ∧
      f.details.entries = [("network_a_id", a.id), ("network_b_id", b.id)] ∧
      a.purpose.separation? b.purpose = some f.severity := by
  obtain ⟨⟨a, b⟩, hpair, hfinding⟩ := List.mem_filterMap.1 h
  obtain ⟨_, severity, hseverity, hreason⟩ := finding_eq_some_iff.1 hfinding
  rcases hreason with ⟨r, _, rfl⟩ | ⟨_, r, _, rfl⟩ | ⟨_, _, _, rfl⟩
  · cases hkind
  · cases hkind
  · exact ⟨a, b, hpair, details_missing severity a b, hseverity⟩

theorem InternetBypass.grade_mem (h : f ∈ InternetBypass.findings site) :
    f.grade ∈ Check.grades .internetBypass := by
  obtain ⟨n, _, hn⟩ := List.mem_flatMap.1 h
  obtain ⟨r, _, hr⟩ := List.mem_filterMap.1 hn
  obtain ⟨reason, _, rfl⟩ := Option.map_eq_some_iff.1 hr
  simp [finding, Check.grades]

theorem IsolationExceptions.grade_mem (h : f ∈ IsolationExceptions.findings site) :
    f.grade ∈ Check.grades .isolationExceptions := by
  obtain ⟨n, _, hn⟩ := List.mem_flatMap.1 h
  obtain ⟨r, _, rfl⟩ := List.mem_map.1 hn
  simp [finding, Check.grades]

theorem Placement.grade_finding (site : Site) (home : Network) (d : Device) (ip : Net.Address) :
    (finding site home d ip).grade = FindingKind.infraNotOnMgmt.grade := by
  simp only [finding]
  cases site.networkOf? ip <;> simp

theorem Placement.grade_mem (h : f ∈ Placement.findings site) :
    f.grade ∈ Check.grades .infrastructurePlacement := by
  rw [Placement.findings] at h
  split at h
  · obtain ⟨d, _, hd⟩ := List.mem_filterMap.1 h
    rw [finding?] at hd
    split at hd
    · obtain ⟨ip, _, hip⟩ := Option.bind_eq_some_iff.1 hd
      split at hip
      · cases hip
      · cases hip
        simp [grade_finding, Check.grades]
    · cases hd
  · cases h

@[simp] theorem NetworkPosture.grade_about (n : Network) (kind : FindingKind) (message : String) :
    (about n kind message).grade = kind.grade := rfl

/-- What is said about a network is of one of eight kinds. -/
theorem NetworkPosture.grade_mem_of_network {n : Network} (h : f ∈ ofNetwork site n) :
    f.grade ∈ Check.grades .networkConfiguration := by
  simp only [ofNetwork, List.mem_append] at h
  rcases h with (hpurpose | hdns) | hrouted
  · rw [byPurpose] at hpurpose
    split at hpurpose
    · simp only [ofSecurity, List.mem_append, mem_when] at hpurpose
      rcases hpurpose with ⟨_, rfl⟩ | ⟨_, rfl⟩ <;> simp [Check.grades]
    · split at hpurpose
      · cases hpurpose
      · simp only [ofManagement, List.mem_append, mem_when] at hpurpose
        rcases hpurpose with (⟨_, rfl⟩ | ⟨_, rfl⟩) | ⟨_, rfl⟩ <;> simp [Check.grades]
    · obtain ⟨_, rfl⟩ := mem_when.1 hpurpose
      simp [Check.grades]
    · cases hpurpose
  · obtain ⟨_, rfl⟩ := mem_when.1 hdns
    simp [Check.grades]
  · obtain ⟨_, rfl⟩ := mem_when.1 hrouted
    simp [Check.grades]

theorem Exposure.grade_mem (h : f ∈ Exposure.findings site) : f.grade ∈ Check.grades .exposure := by
  rcases List.mem_append.1 h with hupnp | hforward
  · rw [ofUpnp] at hupnp
    split at hupnp
    · rw [List.mem_singleton.1 hupnp]
      simp [Check.grades]
    · cases hupnp
  · obtain ⟨forward, _, hf⟩ := List.mem_flatMap.1 hforward
    simp only [ofForward, List.mem_append, Option.mem_toList] at hf
    rcases hf with htarget | hports
    · obtain ⟨target, _, hn⟩ := Option.bind_eq_some_iff.1 htarget
      obtain ⟨n, _, hsome⟩ := Option.bind_eq_some_iff.1 hn
      cases hsome
      simp [intoSensitive, Check.grades]
    · simp only [ofPorts] at hports
      split at hports
      · cases hports
      · cases hports
        simp [Check.grades]

/-- What a family of checks says is in the table. -/
theorem grade_mem_of_mem_runCheck {check : Check} (h : f ∈ runCheck site check) :
    f.grade ∈ check.grades := by
  cases check with
  | managementAccess => exact ManagementAccess.grade_mem h
  | shadowing => exact Shadowing.grade_mem h
  | permissive => exact Breadth.grade_mem h
  | orphaned => exact Orphans.grade_mem h
  | interVlanIsolation =>
      obtain ⟨⟨a, b⟩, _, hpair⟩ := List.mem_filterMap.1 h
      exact Isolation.grade_mem_of_finding hpair
  | internetBypass => exact InternetBypass.grade_mem h
  | isolationExceptions => exact IsolationExceptions.grade_mem h
  | infrastructurePlacement => exact Placement.grade_mem h
  | networkConfiguration =>
      obtain ⟨n, _, hn⟩ := List.mem_flatMap.1 h
      exact NetworkPosture.grade_mem_of_network hn
  | exposure => exact Exposure.grade_mem h

theorem isCoherent_of_mem_runCheck {check : Check} (h : f ∈ runCheck site check) :
    f.grade.IsCoherent := Check.isCoherent_of_mem_grades (grade_mem_of_mem_runCheck h)

end Audit

/-! ## The score -/

/-- The settings with another floor. -/
def AuditSettings.withFloor (s : AuditSettings) (floor : Severity) : AuditSettings :=
  { s with minSeverity := some floor }

namespace Audit

/-- Unless only critical findings are kept, those that are left out cost nothing. -/
theorem impact_eq_zero_of_not_kept {site : Site} {settings : AuditSettings}
    (hfloor : settings.minSeverity ≠ some .critical) {f : Finding}
    (hf : f ∈ allFindings site settings) (hkept : settings.keeps f.severity = false) :
    f.impact = 0 := by
  obtain ⟨check, _, hmem⟩ := List.mem_flatMap.1 hf
  have hcoherent := isCoherent_of_mem_runCheck hmem
  refine hcoherent.points.2 ?_
  change f.severity = .informational
  rw [AuditSettings.keeps] at hkept
  cases hmin : settings.minSeverity with
  | none => simp [hmin] at hkept
  | some floor =>
      rw [hmin] at hkept hfloor
      cases floor <;> cases hseverity : f.severity <;>
        simp_all [Severity.atLeast, Severity.rank]

/-- Unless only critical findings are kept, the score is that of all findings. -/
theorem score_run {site : Site} {settings : AuditSettings}
    (hfloor : settings.minSeverity ≠ some .critical) :
    (Report.ofFindings? (run site settings)).map Report.score =
      (Report.ofFindings? (allFindings site settings)).map Report.score :=
  Report.map_score_congr <| Report.total_filter fun _ hf hkept =>
    impact_eq_zero_of_not_kept hfloor hf hkept

/-- The points of an audit fit in 32 bits unless it has more than two hundred and eighty-six million
findings. -/
theorem fits_run {site : Site} {settings : AuditSettings}
    (h : (run site settings).length ≤ 286331153) : Report.Fits (run site settings) := by
  have himpacts : ∀ f ∈ run site settings, f.impact.toNat ≤ 15 := by
    intro f hf
    obtain ⟨⟨check, _, hfound⟩, _⟩ := mem_run.1 hf
    exact Check.impact_le_of_mem_grades (grade_mem_of_mem_runCheck hfound)
  -- Fifteen points for each of so many findings are just the largest number of 32 bits.
  have htotal := Report.total_le_length_mul himpacts
  rw [Report.Fits, UInt32.size]
  omega

/-- **Severity and points never contradict each other.**  At every site, a finding of any check
takes nothing off the score exactly if it is informational.  Its severity and its points are
those of its kind, but for two kinds.  Where isolation is missing they are critical and fifteen,
or recommended and five, as the purposes of the two networks say; an exception to a block rule is
informational and free, or recommended and three.  So for every audit that keeps informational
findings, a floor at recommendations leaves the score as it is, if there is one. -/
theorem severity_and_points_agree (site : Site) :
    (∀ check, ∀ f ∈ runCheck site check,
      (f.impact = 0 ↔ f.severity = .informational) ∧
        (f.kind ≠ .missingIsolation → f.kind ≠ .allowExceptionPattern →
          f.severity = f.kind.severity ∧ f.impact = f.kind.impact) ∧
        (f.kind = .missingIsolation → ∃ a b, (a, b) ∈ Isolation.pairs site.networks ∧
          ("network_a_id", a.id) ∈ f.details.entries ∧
          ("network_b_id", b.id) ∈ f.details.entries ∧
          a.purpose.separation? b.purpose = some f.severity ∧
          (f.severity = .critical ∧ f.impact = 15 ∨
            f.severity = .recommended ∧ f.impact = 5)) ∧
        (f.kind = .allowExceptionPattern →
          f.severity = .informational ∧ f.impact = 0 ∨
            f.severity = .recommended ∧ f.impact = 3)) ∧
      ∀ settings : AuditSettings,
        settings.minSeverity = none ∨ settings.minSeverity = some .informational →
          (Report.ofFindings? (run site (settings.withFloor .recommended))).map Report.score =
            (Report.ofFindings? (run site settings)).map Report.score := by
  refine ⟨fun check f hf => ?_, fun settings hfloor => ?_⟩
  · have hcoherent : f.grade.IsCoherent := isCoherent_of_mem_runCheck hf
    refine ⟨hcoherent.points, fun hmissing hexception => ?_, fun hmissing => ?_,
      hcoherent.exception⟩
    · have hgrade := hcoherent.usual hmissing hexception
      exact ⟨congrArg Grade.severity hgrade, congrArg Grade.impact hgrade⟩
    · have hcheck : f.kind.family = check :=
        Check.family_of_mem_grades (grade_mem_of_mem_runCheck hf)
      rw [hmissing] at hcheck
      subst hcheck
      obtain ⟨a, b, hpair, hnames, hseverity⟩ := Isolation.exists_pair_of_missing hf hmissing
      exact ⟨a, b, hpair, by simp [hnames], by simp [hnames], hseverity,
        hcoherent.missing hmissing⟩
  · have hkept : settings.minSeverity ≠ some .critical := by
      rcases hfloor with h | h <;> simp [h]
    have hraised : (settings.withFloor .recommended).minSeverity ≠ some .critical := by
      simp [AuditSettings.withFloor]
    rw [score_run hkept, score_run hraised]
    rfl

end Audit

/-- A network of clients at home. -/
def household : Network :=
  { visitors with id := "home", name := "Home", vlan := 60, purpose := .home
                  subnet := some (.ofBits .v4 0x0A3C0000 24) }

namespace Audit

/-- Nothing keeps visitors away from home, and a rule refers to cameras that are gone.  The score
is the same whether the latter is said or left out. -/
theorem severity_and_points_agree_household :
    let site := Site.ofRules [blockTelemetry] [visitors, household]
    let f := Isolation.missing .critical visitors household
    f ∈ runCheck site .interVlanIsolation ∧ f.kind = .missingIsolation ∧
      (f.impact = 0 ↔ f.severity = .informational) ∧
      (f.severity = .critical ∧ f.impact = 15 ∨ f.severity = .recommended ∧ f.impact = 5) ∧
      (∃ g ∈ run site .default, g.severity = .informational) ∧
      (Report.ofFindings? (run site (.withFloor .default .recommended))).map Report.score =
        (Report.ofFindings? (run site .default)).map Report.score := by
  intro site f
  have horder : Rule.inOrder site.rules = [blockTelemetry] :=
    Rule.inOrder_of_pairwise (by decide)
  have hout : Isolation.bypass? site visitors household = none := by
    rw [Isolation.bypass?, Site.trace, Rule.effective_eq_find, horder]
    decide
  have hin : Isolation.bypass? site household visitors = none := by
    rw [Isolation.bypass?, Site.trace, Rule.effective_eq_find, horder]
    decide
  have hfinding : Isolation.finding? site visitors household = some f :=
    Isolation.finding_eq_some_iff.2
      ⟨rfl, .critical, rfl, Or.inr (Or.inr ⟨hout, hin, by decide, rfl⟩)⟩
  have hmem : f ∈ runCheck site .interVlanIsolation :=
    List.mem_filterMap.2 ⟨(visitors, household), by simp [Isolation.pairs, site, Site.ofRules],
      hfinding⟩
  have horphan : (runCheck site .orphaned).any (·.severity == .informational) = true := by decide
  obtain ⟨g, hg, hinformational⟩ := List.any_eq_true.1 horphan
  obtain ⟨hgrades, hscore⟩ := severity_and_points_agree site
  obtain ⟨hpoints, _, hmissing, _⟩ := hgrades .interVlanIsolation f hmem
  obtain ⟨_, _, _, _, _, _, hseverity⟩ := hmissing rfl
  exact ⟨hmem, rfl, hpoints, hseverity,
    ⟨g, mem_run.2 ⟨⟨.orphaned, rfl, hg⟩, rfl⟩, beq_iff_eq.1 hinformational⟩,
    hscore .default (Or.inl rfl)⟩

end Audit

end SiteAudit

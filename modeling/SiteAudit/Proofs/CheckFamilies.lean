import SiteAudit.Proofs.AddedRules
import SiteAudit.Proofs.DeadRules
import SiteAudit.Proofs.FindingGrades

/-!
# Families of checks and their findings

Settings leave out families of checks before they run, and findings after.  What
is left should be what a full audit says, without the findings of these families
and without those of little urgency.  That is so because the kind of a finding
tells which family it comes from: leaving out a family leaves out certain kinds.

What each family can say is in a table, and there the kinds of two families differ.
All else is about lists.

## Main results

* `Audit.family_of_mem_runCheck` — the kind of a finding tells its family.
* `Audit.allFindings_eq_filter` — leaving out families is leaving out findings.
* `Audit.run_single` — what an audit finds where there is nothing but a rule.
* `Audit.settings_only_filter` — settings are a filter on the findings of a full
  audit.
-/

namespace SiteAudit

namespace Audit

variable {site : Site} {f : Finding}

/-- The kind of a finding tells which family of checks it comes from. -/
theorem family_of_mem_runCheck {check : Check} (h : f ∈ runCheck site check) :
    f.kind.family = check :=
  Check.family_of_mem_grades (grade_mem_of_mem_runCheck h)

/-- A condition on the family of a finding keeps all findings of a family, or none. -/
theorem filter_runCheck (site : Site) (check : Check) (p : Check → Bool) :
    (runCheck site check).filter (fun f => p f.kind.family) =
      if p check then runCheck site check else [] := by
  split
  · next hp =>
    refine List.filter_eq_self.2 fun f hf => ?_
    rw [family_of_mem_runCheck hf]
    exact hp
  · next hp =>
    refine List.filter_eq_nil_iff.2 fun f hf => ?_
    rw [family_of_mem_runCheck hf]
    exact hp

/-- Not to run some families is to leave out what they find. -/
theorem allFindings_eq_filter (site : Site) (settings : AuditSettings) :
    allFindings site settings =
      (allFindings site .default).filter fun f => settings.isEnabled f.kind.family := by
  have hdefault : Check.all.filter AuditSettings.default.isEnabled = Check.all := rfl
  rw [allFindings, allFindings, hdefault, List.filter_flatMap, flatMap_filter]
  exact List.flatMap_congr fun check _ => (filter_runCheck site check settings.isEnabled).symm

/-! ## A rule by itself -/

/-- A rule by itself is in no other's way. -/
theorem Shadowing.findings_single (r : Rule) : Shadowing.findings (.ofRules [r] []) = [] := by
  have horder : userOrder (.ofRules [r] []) = [] ∨ userOrder (.ofRules [r] []) = [r] := by
    rw [userOrder_eq_filter]
    change (Rule.inOrder [r]).filter _ = [] ∨ (Rule.inOrder [r]).filter _ = [r]
    rw [Rule.inOrder_of_pairwise (List.pairwise_singleton _ _), List.filter_singleton]
    cases r.isUserRule && (r.isAllow || r.isBlock)
    · exact Or.inl rfl
    · exact Or.inr rfl
  rw [findings, deadRules, exceptions]
  rcases horder with h | h <;> simp [h, splits, eclipsedBy?]

/-- Where there is nothing but a rule, all that is asked is how open it is. -/
theorem runCheck_single (r : Rule) (check : Check) :
    runCheck (.ofRules [r] []) check =
      if check = .permissive then Breadth.findings (.ofRules [r] []) else [] := by
  cases check with
  | permissive => rfl
  | shadowing => exact Shadowing.findings_single r
  | _ => rfl

theorem run_single (r : Rule) {settings : AuditSettings} (h : settings.disabled = []) :
    run (.ofRules [r] []) settings =
      (Breadth.findings (.ofRules [r] [])).filter fun f => settings.keeps f.severity := by
  have henabled : Check.all.filter settings.isEnabled = Check.all := by
    refine List.filter_eq_self.2 fun check _ => ?_
    rw [AuditSettings.isEnabled, h]
    rfl
  have hall : Check.all.flatMap (runCheck (.ofRules [r] [])) =
      Breadth.findings (.ofRules [r] []) := by
    rw [funext (runCheck_single r)]
    simp [Check.all]
  rw [run, allFindings, henabled, hall]

end Audit

/-- The settings with one more family of checks that does not run. -/
def AuditSettings.disable (s : AuditSettings) (check : Check) : AuditSettings :=
  { s with disabled := inRunOrder (check :: s.disabled) }

namespace Audit

/-- **Settings only filter.**  At every site and under all settings, an audit has the findings of a
full audit, in their order, without those whose kind belongs to a family that does not run and
without those below the severity from which on findings are kept.  No two families have findings
of the same kind, at whatever sites.  Where one more family does not run, its findings are gone,
and the others are as they were and in the same order. -/
theorem settings_only_filter :
    (∀ site settings, run site settings =
      (run site .default).filter fun f =>
        !settings.disabled.contains f.kind.family &&
          settings.minSeverity.all fun floor => f.severity.atLeast floor) ∧
      (∀ site other check otherCheck f g, f ∈ runCheck site check →
        g ∈ runCheck other otherCheck → f.kind = g.kind → check = otherCheck) ∧
      ∀ site settings check, run site (settings.disable check) =
        (run site settings).filter fun f => f.kind.family != check := by
  have hfilter : ∀ site settings, run site settings =
      (run site .default).filter fun f =>
        !settings.disabled.contains f.kind.family &&
          settings.minSeverity.all fun floor => f.severity.atLeast floor := by
    intro site settings
    have hdefault : run site .default = allFindings site .default :=
      List.filter_eq_self.2 fun _ _ => rfl
    rw [run, allFindings_eq_filter, List.filter_filter, hdefault]
    refine List.filter_congr fun f _ => ?_
    rw [Bool.and_comm, AuditSettings.isEnabled, AuditSettings.keeps]
    cases settings.minSeverity <;> rfl
  refine ⟨hfilter, ?_, ?_⟩
  · intro site other check otherCheck f g hf hg hkind
    rw [← family_of_mem_runCheck hf, hkind]
    exact family_of_mem_runCheck hg
  · intro site settings check
    rw [hfilter site settings, hfilter, List.filter_filter]
    refine List.filter_congr fun f _ => ?_
    have hdisabled : (settings.disable check).disabled.contains f.kind.family =
        (f.kind.family == check || settings.disabled.contains f.kind.family) := by
      rw [Bool.eq_iff_iff, List.contains_iff_mem, AuditSettings.disable,
        AuditSettings.mem_inRunOrder]
      simp
    rw [hdisabled, Bool.not_or, Bool.and_assoc]
    rfl

/-- A site whose gateway lets devices open ports, and nothing else. -/
def upnpSite : Site := { Site.ofRules [] [] with upnp := true }

theorem settings_only_filter_upnpSite :
    (∃ f ∈ runCheck upnpSite .exposure, f ∉ runCheck upnpSite .shadowing) ∧
      run upnpSite (AuditSettings.default.disable .exposure) =
        (run upnpSite .default).filter fun f => f.kind.family != .exposure := by
  obtain ⟨_, hkinds, hdisable⟩ := settings_only_filter
  have hfound : runCheck upnpSite .exposure ≠ [] := by decide
  obtain ⟨f, hf⟩ := List.exists_mem_of_ne_nil _ hfound
  refine ⟨⟨f, hf, fun hother => ?_⟩, hdisable upnpSite .default .exposure⟩
  cases hkinds _ _ _ _ _ _ hf hother rfl

end Audit

end SiteAudit

import SiteAudit.Proofs.AddedBlocks
import SiteAudit.Proofs.AddedRules

/-!
# Idle rules

A rule that is switched off does nothing, and neither does one whose action is
not known.  An audit should look past both, wherever they stand.  There is one
check that does not: references to networks that are gone are reported for every
rule in force, whatever its action.

What a check asks about one rule, it asks of its action first, and of whether the
rule is in force.  So there is an answer for each check by cases on why a rule is
idle, and the answers for all checks make up the audit.

## Main results

* `Rule.IsIdle.noTraffic` — an idle rule decides on no traffic.
* `Audit.runCheck_insertRule_of_idle` — the checks that look past idle rules.
* `Audit.idle_rules_inert` — all of it together.
-/

namespace SiteAudit

/-- A rule that does nothing: it is not in force, or its action is not known. -/
def Rule.IsIdle (r : Rule) : Prop := r.enabled = false ∨ r.action = .unknown

variable {site : Site} {place : Nat} {r : Rule}

/-! ## What an idle rule is not -/

namespace Rule.IsIdle

theorem noTraffic (h : r.IsIdle) (site : Site) : site.NoTraffic r where
  trace _ _ _ _ := by
    rcases h with h | h
    · simp [isCandidate, h]
    · simp [isCandidate, h]
  internet _ := by
    rcases h with h | h
    · simp [Site.blocksInternet, h]
    · simp [Site.blocksInternet, blocksNew, isBlock, h]
  bypass _ := by
    rcases h with h | h
    · simp [Audit.InternetBypass.bypass?, isUserRule, h]
    · simp [Audit.InternetBypass.bypass?, allowsNew, isAllow, h]

theorem isAllow_isUserRule (h : r.IsIdle) : (r.isAllow && r.isUserRule) = false := by
  rcases h with h | h
  · simp [isUserRule, h]
  · simp [isAllow, h]

theorem decides_isUserRule (h : r.IsIdle) :
    ((r.isAllow || r.isBlock) && r.isUserRule) = false := by
  rcases h with h | h
  · simp [isUserRule, h]
  · simp [isAllow, isBlock, h]

theorem isGenerated (h : r.IsIdle) (site : Site) (n : Network) :
    Audit.IsolationExceptions.isGenerated site n r = false := by
  rcases h with h | h
  · simp [Audit.IsolationExceptions.isGenerated, h]
  · simp [Audit.IsolationExceptions.isGenerated, isBlock, h]

theorem breadth (h : r.IsIdle) (site : Site) : Audit.Breadth.breadth? site r = none := by
  rcases h with h | h
  · simp [Audit.Breadth.breadth?, isUserRule, h]
  · simp [Audit.Breadth.breadth?, allowsNew, isAllow, h]

end Rule.IsIdle

/-! ## Audits -/

namespace Audit

/-- All checks but one look past idle rules. -/
theorem runCheck_insertRule_of_idle (h : r.IsIdle) {check : Check} (hcheck : check ≠ .orphaned) :
    runCheck (site.insertRule place r) check = runCheck site check := by
  have htraffic : site.NoTraffic r := h.noTraffic site
  cases check with
  | managementAccess =>
      have hinternet : ∀ n, (site.insertRule place r).internetBlocked n = site.internetBlocked n :=
        fun n => Site.internetBlocked_insertRule (htraffic.internet n)
      refine (ManagementAccess.findings_insertRule_iff hinternet).2 fun n _ req _ => ?_
      rw [ManagementAccess.gives, Bool.and_comm r.isUserRule, h.isAllow_isUserRule,
        Bool.false_and, Bool.false_and]
  | shadowing => exact Shadowing.findings_insertRule_of_unread h.decides_isUserRule
  | permissive => exact Breadth.findings_insertRule_iff.2 (h.breadth site)
  | orphaned => exact absurd rfl hcheck
  | isolationExceptions =>
      refine IsolationExceptions.findings_insertRule_iff.2 fun n _ => ⟨fun _ huser => ?_, ?_⟩
      · cases hyes : IsolationExceptions.isException site n r with
        | false => rfl
        | true =>
            have hnot := h.isAllow_isUserRule
            rw [huser, IsolationExceptions.isAllow_of_isException hyes] at hnot
            cases hnot
      · intro _ hgenerated
        rw [h.isGenerated site n] at hgenerated
        cases hgenerated
  | interVlanIsolation | internetBypass | infrastructurePlacement | networkConfiguration
  | exposure => exact runCheck_insertRule_of_noTraffic htraffic (by simp [asksTraffic])

/-- **Idle rules are inert.**  At every site and under all settings, let a rule be put in at any
place, with any index.  If it is not in force, an audit has the very same findings.  If it is in
force and its action is not known, an audit has the same findings, and perhaps one more that says
that the rule refers to networks that are gone.  In both cases all traces stay as they are, and so
do the networks that have no internet access. -/
theorem idle_rules_inert (site : Site) (settings : AuditSettings) (place : Nat) (r : Rule) :
    (r.enabled = false → run (site.insertRule place r) settings = run site settings) ∧
      (r.enabled = true → r.action = .unknown →
        OrphanApart r (run (site.insertRule place r) settings) (run site settings)) ∧
      (r.enabled = false ∨ r.action = .unknown →
        (∀ source destination filter newOnly,
          (site.insertRule place r).trace source destination filter newOnly =
            site.trace source destination filter newOnly) ∧
        ∀ n, (site.insertRule place r).internetBlocked n = site.internetBlocked n) := by
  refine ⟨fun hdisabled => ?_, fun _ hunknown => ?_, fun hidle => ⟨?_, ?_⟩⟩
  · have hidle : r.IsIdle := Or.inl hdisabled
    have hcheck : ∀ check,
        runCheck (site.insertRule place r) check = runCheck site check := by
      intro check
      by_cases horphaned : check = .orphaned
      · subst horphaned
        have hnone : Orphans.finding? site r = none := by simp [Orphans.finding?, hdisabled]
        change (if site.networks.isEmpty then []
          else (site.insertRule place r).rules.filterMap (Orphans.finding? site)) = _
        rw [Site.filterMap_insertRule_iff.2 hnone]
        rfl
      · exact runCheck_insertRule_of_idle hidle horphaned
    rw [run, run, allFindings, allFindings, funext hcheck]
  · have hidle : r.IsIdle := Or.inr hunknown
    exact run_insertRule settings fun _ => runCheck_insertRule_of_idle hidle
  · intro source destination filter newOnly
    exact Site.trace_insertRule ((Rule.IsIdle.noTraffic hidle site).trace _ _ _ _)
  · intro n
    exact Site.internetBlocked_insertRule ((Rule.IsIdle.noTraffic hidle site).internet n)

/-- Visitors may view the cameras.  The rule that would keep them away is switched off, and another
one, whose action is not known, is about a laboratory that is gone.  The first changes no finding,
the second adds the one about the laboratory, and visitors still view the cameras.  In force, the
first rule would end that. -/
theorem idle_rules_inert_viewing :
    let site := Site.ofRules [allowViewing] [visitors, cameras]
    let disabled := { blockVisitors with enabled := false }
    let unread :=
      { blockVisitors with
          action := .unknown
          destination := ⟨.network ["laboratory"] false, none, none, false⟩ }
    run (site.insertRule 0 disabled) .default = run site .default ∧
      OrphanApart unread (run (site.insertRule 0 unread) .default) (run site .default) ∧
      (∃ f ∈ run (site.insertRule 0 unread) .default, f.kind = .orphanedRule) ∧
      (∀ r ∈ [disabled, unread],
        (site.insertRule 0 r).trace visitors cameras .everything true =
          site.trace visitors cameras .everything true) ∧
      (site.insertRule 0 blockVisitors).trace visitors cameras .everything true ≠
        site.trace visitors cameras .everything true := by
  intro site disabled unread
  obtain ⟨hsame, _, htraces⟩ := idle_rules_inert site .default 0 disabled
  obtain ⟨_, hapart, htraces'⟩ := idle_rules_inert site .default 0 unread
  have horphan : (runCheck (site.insertRule 0 unread) .orphaned).any
      (·.kind == .orphanedRule) = true := by decide
  obtain ⟨f, hf, hkind⟩ := List.any_eq_true.1 horphan
  have horder : Rule.inOrder site.rules = [allowViewing] := Rule.inOrder_of_pairwise (by decide)
  have horder' : Rule.inOrder (site.insertRule 0 blockVisitors).rules =
      [blockVisitors, allowViewing] := Rule.inOrder_of_pairwise (by decide)
  refine ⟨hsame rfl, hapart rfl rfl, ⟨f, mem_run.2 ⟨⟨.orphaned, rfl, hf⟩, rfl⟩, beq_iff_eq.1 hkind⟩,
    fun r hr => ?_, fun hequal => ?_⟩
  · rcases List.mem_pair.1 hr with rfl | rfl
    · exact (htraces (Or.inl rfl)).1 _ _ _ _
    · exact (htraces' (Or.inr rfl)).1 _ _ _ _
  · have heffective := congrArg Verdict.effective hequal
    rw [Site.trace, Site.trace, Rule.effective_eq_find, Rule.effective_eq_find, horder,
      horder'] at heffective
    exact absurd heffective (by decide)

end Audit

end SiteAudit

import Mathlib.Data.List.Perm.Basic
import SiteAudit.Proofs.AddedBlocks
import SiteAudit.Proofs.DeadRules
import SiteAudit.Proofs.RuleTables
import SiteAudit.Proofs.ScoreSums

/-!
# The order in which rules are stored

Controllers list rules in no particular order; what counts is the index of each,
and among rules of the same index which one stands first.  An audit must not
depend on more than that.

Checks walk the rules in three ways.  Some ask whether any rule satisfies a
condition, and to these the order means nothing.  Some try the rules in the
order of their index, and that order is the same however they are stored.  The
others report on each rule where they meet it, so that the same findings come
out in another order.

## Main results

* `Site.trace_reordered`, `Site.internetBlocked_reordered` — traces and internet
  access.
* `Audit.runCheck_reordered` — each family of checks has the same findings,
  stored in another order perhaps.
* `Report.score_perm`, `Report.countOf_perm` — reports add findings up.
* `Audit.run_reordered` — all of it together.
-/

namespace SiteAudit

/-! ## Reports -/

namespace Report

variable {findings findings' : List Finding}

/-- Findings in another order have the same score, or no report either. -/
theorem score_perm (h : findings.Perm findings') :
    (ofFindings? findings).map score = (ofFindings? findings').map score :=
  map_score_congr (total_eq_of_perm (h.map Finding.impact))

theorem countOf_perm (h : findings.Perm findings') (severity : Severity) :
    countOf findings severity = countOf findings' severity := h.countP_eq _

end Report

variable {site : Site} {rules : List Rule}

/-! ## Traces -/

theorem Site.trace_reordered (h : Rule.Reordered site.rules rules) (source destination : Network)
    (filter : TrafficFilter) (newOnly : Bool) :
    (site.withRules rules).trace source destination filter newOnly =
      site.trace source destination filter newOnly :=
  (h.evaluate_eq (site.rulesTraffic source destination filter) newOnly).symm

theorem Site.internetBlocked_reordered (h : Rule.Reordered site.rules rules) (n : Network) :
    (site.withRules rules).internetBlocked n = site.internetBlocked n := by
  have hany : rules.any (fun r => site.blocksInternet r && site.selects r.source n .covers) =
      site.rules.any fun r => site.blocksInternet r && site.selects r.source n .covers :=
    h.perm.symm.any_eq
  change (!n.internet || rules.any fun r =>
    site.blocksInternet r && site.selects r.source n .covers) = _
  rw [hany]
  rfl

theorem Site.userRules_reordered (h : Rule.Reordered site.rules rules) :
    (site.withRules rules).userRules.Perm site.userRules := h.perm.symm.filter _

/-! ## Checks -/

namespace Audit

theorem ManagementAccess.findings_reordered (h : Rule.Reordered site.rules rules) :
    ManagementAccess.findings (site.withRules rules) = ManagementAccess.findings site := by
  refine ManagementAccess.findings_congr fun n => ?_
  have hgiven : ∀ req, (ManagementAccess.candidates (site.withRules rules) n).any
      (fun r => ManagementAccess.satisfies site r req) =
        (ManagementAccess.candidates site n).any
          fun r => ManagementAccess.satisfies site r req :=
    fun req => ((Site.userRules_reordered h).filter _).any_eq
  rw [ManagementAccess.unmet, ManagementAccess.unmet, Site.internetBlocked_reordered h]
  change (if n.isolated && site.internetBlocked n then
      (ManagementAccess.required site).filter fun req =>
        !(ManagementAccess.candidates (site.withRules rules) n).any
          fun r => ManagementAccess.satisfies site r req
    else []) = _
  simp only [hgiven]

theorem Shadowing.findings_reordered (h : Rule.Reordered site.rules rules) :
    Shadowing.findings (site.withRules rules) = Shadowing.findings site := by
  refine Shadowing.findings_congr ?_
  rw [Shadowing.userOrder_eq_filter, Shadowing.userOrder_eq_filter]
  change (Rule.inOrder rules).filter _ = _
  rw [Rule.reordered_iff.1 h]

theorem Isolation.findings_reordered (h : Rule.Reordered site.rules rules) :
    Isolation.findings (site.withRules rules) = Isolation.findings site :=
  Isolation.findings_congr (fun a b => Site.trace_reordered h a b _ _)
    (fun _ _ => h.perm.symm.any_eq)

theorem InternetBypass.findings_reordered (h : Rule.Reordered site.rules rules) :
    (InternetBypass.findings (site.withRules rules)).Perm (InternetBypass.findings site) := by
  rw [InternetBypass.findings, funext (Site.internetBlocked_reordered h)]
  exact List.Perm.flatMap_left _ fun n _ => h.perm.symm.filterMap _

theorem IsolationExceptions.findings_reordered (h : Rule.Reordered site.rules rules) :
    (IsolationExceptions.findings (site.withRules rules)).Perm
      (IsolationExceptions.findings site) := by
  have henforced : ∀ n, IsolationExceptions.isEnforced (site.withRules rules) n =
      IsolationExceptions.isEnforced site n := by
    intro n
    have hany : rules.any (IsolationExceptions.isGenerated site n) =
        site.rules.any (IsolationExceptions.isGenerated site n) := h.perm.symm.any_eq
    change (n.isolated && rules.any (IsolationExceptions.isGenerated site n)) = _
    rw [hany]
    rfl
  rw [IsolationExceptions.findings, funext henforced]
  exact List.Perm.flatMap_left _ fun n _ => ((Site.userRules_reordered h).filter _).map _

/-- Each family of checks has the same findings. -/
theorem runCheck_reordered (h : Rule.Reordered site.rules rules) (check : Check) :
    (runCheck (site.withRules rules) check).Perm (runCheck site check) := by
  cases check with
  | managementAccess => exact .of_eq (ManagementAccess.findings_reordered h)
  | shadowing => exact .of_eq (Shadowing.findings_reordered h)
  | permissive => exact h.perm.symm.filterMap _
  | orphaned =>
      change (if site.networks.isEmpty then [] else rules.filterMap (Orphans.finding? site)).Perm
        (if site.networks.isEmpty then [] else site.rules.filterMap (Orphans.finding? site))
      split
      · exact .nil
      · exact h.perm.symm.filterMap _
  | interVlanIsolation => exact .of_eq (Isolation.findings_reordered h)
  | internetBypass => exact InternetBypass.findings_reordered h
  | isolationExceptions => exact IsolationExceptions.findings_reordered h
  | infrastructurePlacement => exact .of_eq (runCheck_withRules (Or.inl rfl))
  | networkConfiguration =>
      exact .of_eq (NetworkPosture.findings_congr (Site.internetBlocked_reordered h))
  | exposure => exact .of_eq (runCheck_withRules (Or.inr rfl))

/-! ## Summary -/

/-- **An audit does not depend on the order in which rules are stored.**  At every site and under
all settings, let the rules be stored in another order that keeps those of the same index in
theirs.  The findings are then the same but for their order.  They have the same score, or both no
report for too many points, and the same number of findings of each severity; the checks of
management access, of rules in each other's way and of isolation have the same list of findings. -/
theorem run_reordered (site : Site) (settings : AuditSettings) {rules : List Rule}
    (h : Rule.Reordered site.rules rules) :
    (run (site.withRules rules) settings).Perm (run site settings) ∧
      (Report.ofFindings? (run (site.withRules rules) settings)).map Report.score =
        (Report.ofFindings? (run site settings)).map Report.score ∧
      (∀ severity, Report.countOf (run (site.withRules rules) settings) severity =
        Report.countOf (run site settings) severity) ∧
      ManagementAccess.findings (site.withRules rules) = ManagementAccess.findings site ∧
      Shadowing.findings (site.withRules rules) = Shadowing.findings site ∧
      Isolation.findings (site.withRules rules) = Isolation.findings site := by
  have hall : (allFindings (site.withRules rules) settings).Perm (allFindings site settings) :=
    List.Perm.flatMap_left _ fun check _ => runCheck_reordered h check
  have hrun : (run (site.withRules rules) settings).Perm (run site settings) := hall.filter _
  exact ⟨hrun, Report.score_perm hrun, Report.countOf_perm hrun,
    ManagementAccess.findings_reordered h, Shadowing.findings_reordered h,
    Isolation.findings_reordered h⟩

/-- The rule that keeps visitors away from cameras is stored behind the one that lets them in, and
still decides.  Stored in front of it, it changes no finding. -/
theorem run_reordered_visitors :
    let site := Site.ofRules [allowViewing, blockVisitors] [visitors, cameras]
    let sorted := site.withRules [blockVisitors, allowViewing]
    (site.trace visitors cameras .everything true).effective = some blockVisitors ∧
      (run sorted .default).Perm (run site .default) ∧
      (Report.ofFindings? (run sorted .default)).map Report.score =
        (Report.ofFindings? (run site .default)).map Report.score ∧
      Isolation.findings sorted = Isolation.findings site := by
  intro site sorted
  have hreordered : Rule.Reordered site.rules [blockVisitors, allowViewing] :=
    Rule.Reordered.swap (by decide) [] []
  have heffective : (sorted.trace visitors cameras .everything true).effective =
      some blockVisitors := by
    rw [Site.trace, Rule.effective_eq_find, Rule.inOrder_of_pairwise (by decide)]
    decide
  rw [Site.trace_reordered hreordered] at heffective
  obtain ⟨hrun, hscore, _, _, _, hisolation⟩ := run_reordered site .default hreordered
  exact ⟨heffective, hrun, hscore, hisolation⟩

end Audit

end SiteAudit

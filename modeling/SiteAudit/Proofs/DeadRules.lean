import SiteAudit.Audit.Shadowing
import SiteAudit.Proofs.Containment
import SiteAudit.Proofs.FirstMatch

/-!
# Dead rules

A rule is reported dead if a rule of the opposite action comes earlier and
contains it.  The report looks at the rules of users only, sorted among
themselves, and compares two rules at a time; traffic is decided by all rules
together.  Here the two are tied to each other: on no flow does the evaluator
decide by a rule that is reported dead.

What carries the argument is that the rules of users stand in the same order
among all rules as among themselves, so that the containing rule is tried
first, and that it is tried wherever the dead rule would be.

## Main results

* `mem_deadRules` — the dead rules by their places in the order.
* `sublist_inOrder_of_mem_deadRules` — the containing rule comes first among
  all rules.
* `isCandidate_of_mem_deadRules` — the containing rule can decide wherever
  the dead one can.
* `dead_never_effective` — a rule that is reported dead never decides.
-/

namespace SiteAudit

/-! ## Ids and searches -/

/-- Where ids are distinct, the id of a rule determines it. -/
theorem Rule.eq_of_id_eq {rules : List Rule} (hids : (rules.map Rule.id).Nodup) {a b : Rule}
    (ha : a ∈ rules) (hb : b ∈ rules) (h : a.id = b.id) : a = b := by
  obtain ⟨i, hi⟩ := List.mem_iff_getElem?.1 ha
  obtain ⟨j, hj⟩ := List.mem_iff_getElem?.1 hb
  have hlt : i < (rules.map Rule.id).length := by
    rw [List.length_map]
    exact (List.getElem?_eq_some_iff.1 hi).1
  have hsame : (rules.map Rule.id)[i]? = (rules.map Rule.id)[j]? := by
    rw [List.getElem?_map, List.getElem?_map, hi, hj, Option.map_some, Option.map_some, h]
  have hij : i = j := (List.getElem?_inj hlt hids).1 hsame
  rw [hij, hj] at hi
  exact (Option.some.inj hi).symm

/-- A search does not end at an element if it meets another one that satisfies the condition
before it. -/
theorem find_ne_of_sublist {p : α → Bool} {e r : α} {list : List α} (hnodup : list.Nodup)
    (hbefore : [e, r].Sublist list) (he : p e = true) : list.find? p ≠ some r := by
  induction list with
  | nil => simp
  | cons a list ih =>
      obtain ⟨hfresh, hrest⟩ := List.nodup_cons.1 hnodup
      -- The pair cannot end at the head, so `r` is among the rest and is not the head.
      have hlater : r ∈ list := by
        cases hbefore with
        | cons _ h => exact h.subset (by simp)
        | cons_cons _ h => exact h.subset (by simp)
      by_cases ha : p a = true
      · rw [List.find?_cons_of_pos ha]
        intro heq
        rw [Option.some.inj heq] at hfresh
        exact hfresh hlater
      · rw [List.find?_cons_of_neg ha]
        cases hbefore with
        | cons _ h => exact ih hrest h
        | cons_cons _ _ => exact absurd he ha

namespace Audit.Shadowing

variable {site : Site} {e r : Rule}

/-- The rules of users stand in the same order as among all rules. -/
theorem userOrder_eq_filter (site : Site) :
    userOrder site =
      (Rule.inOrder site.rules).filter fun r => r.isUserRule && (r.isAllow || r.isBlock) := by
  rw [userOrder, Site.userRules, Rule.inOrder_filter, Rule.inOrder_filter, List.filter_filter]
  simp only [Bool.and_comm]

theorem userOrder_sublist (site : Site) : (userOrder site).Sublist (Rule.inOrder site.rules) := by
  rw [userOrder_eq_filter]
  exact List.filter_sublist

theorem isUserRule_of_mem_userOrder (h : r ∈ userOrder site) :
    r.isUserRule = true ∧ (r.isAllow || r.isBlock) = true := by
  rw [userOrder_eq_filter, List.mem_filter, Bool.and_eq_true] at h
  exact h.2

/-- The dead rules by their places in the order. -/
theorem mem_deadRules :
    (r, e) ∈ deadRules site ↔
      ∃ front back, userOrder site = front ++ r :: back ∧ eclipsedBy? site front r = some e := by
  constructor
  · intro h
    obtain ⟨⟨front, r', back⟩, hsplit, hmap⟩ := List.mem_filterMap.1 h
    obtain ⟨e', he, heq⟩ := Option.map_eq_some_iff.1 hmap
    obtain ⟨front', hlist, hfront⟩ := mem_splits.1 hsplit
    cases heq
    have hsame : front = front' := by simpa using hfront
    exact ⟨front, back, hsame ▸ hlist, he⟩
  · rintro ⟨front, back, hlist, he⟩
    refine List.mem_filterMap.2 ⟨(front, r, back), mem_splits.2 ⟨front, hlist, by simp⟩, ?_⟩
    simp [he]

/-! ## The containing rule -/

/-- The containing rule comes first among all rules. -/
theorem sublist_inOrder_of_mem_deadRules (h : (r, e) ∈ deadRules site) :
    [e, r].Sublist (Rule.inOrder site.rules) := by
  obtain ⟨front, back, hlist, heclipsed⟩ := mem_deadRules.1 h
  have hmem : e ∈ front := (containing_of_eclipsedBy heclipsed).1
  have huser : [e, r].Sublist (userOrder site) := by
    rw [hlist]
    exact (List.singleton_sublist.2 hmem).append (List.singleton_sublist.2 (by simp))
  exact huser.trans (userOrder_sublist site)

/-- The containing rule is in force, and its action is known. -/
theorem enabled_of_mem_deadRules (h : (r, e) ∈ deadRules site) :
    e.enabled = true ∧ e.action ≠ .unknown := by
  obtain ⟨front, back, hlist, heclipsed⟩ := mem_deadRules.1 h
  have hmem : e ∈ userOrder site := by
    rw [hlist]
    exact List.mem_append_left _ (containing_of_eclipsedBy heclipsed).1
  obtain ⟨huser, hdecisive⟩ := isUserRule_of_mem_userOrder hmem
  refine ⟨?_, ?_⟩
  · rw [Rule.isUserRule, Bool.and_eq_true] at huser
    exact huser.1
  · intro hunknown
    simp [Rule.isAllow, Rule.isBlock, hunknown] at hdecisive

/-- The containing rule can decide wherever the dead one can: on every flow, and if only fresh
connections count, on every flow that opens one. -/
theorem isCandidate_of_mem_deadRules (h : (r, e) ∈ deadRules site)
    (htrim : r.HasTrimmedDomains) {f : Flow} (hf : f.IsPlacedIn site) {newOnly : Bool}
    (hnew : newOnly = true → f.state = "NEW")
    (hr : Rule.isCandidate (·.appliesTo f) newOnly r = true) :
    Rule.isCandidate (·.appliesTo f) newOnly e = true := by
  obtain ⟨front, back, hlist, heclipsed⟩ := mem_deadRules.1 h
  obtain ⟨henabled, hknown⟩ := enabled_of_mem_deadRules h
  obtain ⟨_, _, happlies, _⟩ := Rule.isCandidate_iff.1 hr
  have happlies' : e.appliesTo f = true :=
    Rule.appliesTo_of_contains hf htrim (containing_of_eclipsedBy heclipsed).2 happlies
  refine Rule.isCandidate_iff.2 ⟨henabled, hknown, happlies', fun hfresh => ?_⟩
  have hstate : f.state ∈ e.stateNames := (Rule.appliesTo_iff.1 happlies').2.1
  rw [hnew hfresh] at hstate
  exact Rule.allowsAnswersOnly_eq_false_of_matchesNew (List.contains_iff_mem.2 hstate)

/-- A dead rule does not decide. -/
theorem effective_ne_of_mem_deadRules (hids : (site.rules.map Rule.id).Nodup)
    (h : (r, e) ∈ deadRules site) (htrim : r.HasTrimmedDomains) {f : Flow}
    (hf : f.IsPlacedIn site) {newOnly : Bool} (hnew : newOnly = true → f.state = "NEW") :
    (Rule.evaluate site.rules (·.appliesTo f) newOnly).effective ≠ some r := by
  intro heffective
  rw [Rule.effective_eq_find] at heffective
  have hcandidate := isCandidate_of_mem_deadRules h htrim hf hnew (List.find?_some heffective)
  have hnodup : (Rule.inOrder site.rules).Nodup := by
    rw [(Rule.inOrder_perm site.rules).nodup_iff]
    exact List.Pairwise.of_map Rule.id (fun a b hne hab => hne (by rw [hab])) hids
  exact find_ne_of_sublist hnodup (sublist_inOrder_of_mem_deadRules h) hcandidate heffective

/-! ## Findings -/

theorem kind_exception (site : Site) (allow block : Rule) :
    (exception site allow block).kind = .allowExceptionPattern := by
  simp only [exception]
  split <;> rfl

theorem kind_dead (r e : Rule) :
    (dead r e).kind = if r.isBlock then .allowSubvertsDeny else .denyShadowsAllow := by
  simp only [dead]
  split <;> rfl

theorem ruleId_dead (r e : Rule) : (dead r e).ruleId = some r.id := by
  simp only [dead]
  split <;> rfl

/-- A finding about a dead rule names one. -/
theorem exists_mem_deadRules_of_mem_findings {finding : Finding} (h : finding ∈ findings site)
    (hkind : finding.kind = .allowSubvertsDeny ∨ finding.kind = .denyShadowsAllow) :
    ∃ r e, (r, e) ∈ deadRules site ∧ finding.ruleId = some r.id := by
  rw [findings, List.mem_append, List.mem_map, List.mem_map] at h
  rcases h with ⟨⟨r, e⟩, hmem, rfl⟩ | ⟨⟨allow, block⟩, _, rfl⟩
  · exact ⟨r, e, hmem, ruleId_dead r e⟩
  · rw [kind_exception] at hkind
    simp at hkind

/-- **A rule that is reported dead never decides.**  At a site whose rules have distinct ids, let
a finding of the shadowing check say that a rule never matches.  Then no flow is decided by that
rule, neither among all connections nor, if the flow opens one, among fresh connections. -/
theorem dead_never_effective (site : Site) (hids : (site.rules.map Rule.id).Nodup)
    {finding : Finding} (hfinding : finding ∈ findings site)
    (hkind : finding.kind = .allowSubvertsDeny ∨ finding.kind = .denyShadowsAllow)
    {r : Rule} (hr : r ∈ site.rules) (hnames : finding.ruleId = some r.id)
    (hread : r.HasTrimmedDomains ∨ ∃ groups doc, r ∈ Export.rules groups doc)
    {f : Flow} (hf : f.IsPlacedIn site) :
    (Rule.evaluate site.rules (·.appliesTo f) false).effective ≠ some r ∧
      (f.state = "NEW" → (Rule.evaluate site.rules (·.appliesTo f) true).effective ≠ some r) := by
  obtain ⟨d, e, hdead, hid⟩ := exists_mem_deadRules_of_mem_findings hfinding hkind
  have hmem : d ∈ site.rules :=
    (Rule.inOrder_perm site.rules).mem_iff.1
      ((sublist_inOrder_of_mem_deadRules hdead).subset (by simp))
  have hsame : d.id = r.id := Option.some.inj (hid.symm.trans hnames)
  have hdr : d = r := Rule.eq_of_id_eq hids hmem hr hsame
  subst hdr
  have htrim : d.HasTrimmedDomains := Export.hasTrimmedDomains_of_read hread
  exact ⟨effective_ne_of_mem_deadRules hids hdead htrim hf (by simp),
    fun hnew => effective_ne_of_mem_deadRules hids hdead htrim hf fun _ => hnew⟩

/-- The uplink of the cameras comes first, so that their telemetry is not blocked as it was meant
to be.  The report says so, and it is right about the flow of a camera. -/
theorem dead_never_effective_telemetry :
    let site := Site.ofRules [allowUplink, blockTelemetry] [cameras]
    dead blockTelemetry allowUplink ∈ findings site ∧
      cameraReport.IsPlacedIn site ∧ cameraReport.state = "NEW" ∧
      (Rule.evaluate site.rules (·.appliesTo cameraReport) false).effective ≠
        some blockTelemetry ∧
      (Rule.evaluate site.rules (·.appliesTo cameraReport) true).effective ≠
        some blockTelemetry := by
  intro site
  have horder : userOrder site = [allowUplink, blockTelemetry] :=
    Rule.inOrder_of_pairwise (by decide)
  have hdead : (blockTelemetry, allowUplink) ∈ deadRules site :=
    mem_deadRules.2 ⟨[allowUplink], [], horder, by decide⟩
  have hfinding : dead blockTelemetry allowUplink ∈ findings site :=
    List.mem_append_left _ (List.mem_map_of_mem hdead)
  have hplaced : cameraReport.IsPlacedIn site := by decide
  have htrim : blockTelemetry.HasTrimmedDomains := by decide
  obtain ⟨hall, hfresh⟩ := dead_never_effective site (by decide) hfinding (by decide)
    (by decide) rfl (Or.inl htrim) hplaced
  exact ⟨hfinding, hplaced, rfl, hall, hfresh rfl⟩

end Audit.Shadowing

end SiteAudit

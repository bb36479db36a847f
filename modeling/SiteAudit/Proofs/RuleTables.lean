import SiteAudit.Audit.Run
import SiteAudit.Proofs.RuleOrder

/-!
# Sites with other rules

A check looks at the rules of a site and at the rest of it.  What it asks about
a single rule, it asks of the rest: whether a side selects a network, whether one
rule contains another, whether a zone is external.  So two sites that differ in
their rules alone answer all these questions in the same way, and a check
differs only by which rules it meets and in which order.

Said for each check once, this leaves statements about lists of rules.  A rule
put in or taken out, and a list stored in another way, are the ones of interest.

## Main results

* `Site.insertRule_eraseRule` — a rule taken out and put back.
* `Site.any_insertRule`, `Site.filter_insertRule`, `Site.filterMap_insertRule_iff` —
  what is asked of the rules one by one, with one more rule.
* `Site.effective_insertRule`, `Site.trace_insertRule` — traces of a site with
  one more rule.
* `Audit.Isolation.findings_congr`, `Audit.Shadowing.findings_congr` and their
  kin — what a check needs of two sites to say the same about both.
-/

namespace SiteAudit

/-! ## Sites -/

namespace Site

/-- The site with other rules in place of its own. -/
def withRules (site : Site) (rules : List Rule) : Site := { site with rules := rules }

/-- The site with one more rule, which stands at a place among those there are. -/
def insertRule (site : Site) (place : Nat) (r : Rule) : Site :=
  site.withRules (site.rules.take place ++ r :: site.rules.drop place)

/-- The site without the rule at a place. -/
def eraseRule (site : Site) (place : Nat) : Site := site.withRules (site.rules.eraseIdx place)

variable {site : Site} {place : Nat} {r : Rule}

theorem rules_insertRule (site : Site) (place : Nat) (r : Rule) :
    (site.insertRule place r).rules = site.rules.take place ++ r :: site.rules.drop place := rfl

/-- A rule that is taken out and put back leaves the site as it was. -/
theorem insertRule_eraseRule (h : site.rules[place]? = some r) :
    (site.eraseRule place).insertRule place r = site := by
  obtain ⟨hlt, hr⟩ := List.getElem?_eq_some_iff.1 h
  have hrules : (site.rules.eraseIdx place).take place ++
      r :: (site.rules.eraseIdx place).drop place = site.rules := by
    have hlength : (site.rules.take place).length = place := by
      rw [List.length_take]
      omega
    rw [List.eraseIdx_eq_take_drop_succ, List.take_left' hlength, List.drop_left' hlength, ← hr,
      ← List.drop_eq_getElem_cons hlt, List.take_append_drop]
  rw [insertRule, eraseRule]
  change site.withRules ((site.rules.eraseIdx place).take place ++
    r :: (site.rules.eraseIdx place).drop place) = site
  rw [hrules]
  rfl

/-! ## Rules one by one -/

theorem exists_split_insertRule (site : Site) (place : Nat) (r : Rule) :
    ∃ front back, site.rules = front ++ back ∧
      (site.insertRule place r).rules = front ++ r :: back :=
  ⟨site.rules.take place, site.rules.drop place, (List.take_append_drop ..).symm, rfl⟩

theorem any_insertRule (site : Site) (place : Nat) (r : Rule) (p : Rule → Bool) :
    (site.insertRule place r).rules.any p = (p r || site.rules.any p) := by
  obtain ⟨front, back, hold, hnew⟩ := site.exists_split_insertRule place r
  rw [hold, hnew, List.any_append, List.any_append, List.any_cons, Bool.or_left_comm]

/-- A condition that the new rule does not satisfy selects the rules it selected. -/
theorem filter_insertRule {p : Rule → Bool} (h : p r = false) :
    (site.insertRule place r).rules.filter p = site.rules.filter p := by
  obtain ⟨front, back, hold, hnew⟩ := site.exists_split_insertRule place r
  have hneg : ¬p r = true := by simp [h]
  rw [hold, hnew, List.filter_append, List.filter_append, List.filter_cons_of_neg hneg]

/-- The users' rules that satisfy a condition are the same with a rule that is not one of them. -/
theorem filter_userRules_insertRule {p : Rule → Bool} (h : (p r && r.isUserRule) = false) :
    (site.insertRule place r).userRules.filter p = site.userRules.filter p := by
  rw [userRules, userRules, List.filter_filter, List.filter_filter]
  exact filter_insertRule h

theorem sublist_userRules_insertRule (site : Site) (place : Nat) (r : Rule) :
    site.userRules.Sublist (site.insertRule place r).userRules := by
  obtain ⟨front, back, hold, hnew⟩ := site.exists_split_insertRule place r
  rw [userRules, userRules, hold, hnew]
  exact ((List.Sublist.refl front).append (List.sublist_cons_self r back)).filter _

/-- One more rule is one more of those that satisfy a condition, if it is one of them. -/
theorem length_filter_userRules_insertRule (site : Site) (place : Nat) (r : Rule)
    (p : Rule → Bool) :
    ((site.insertRule place r).userRules.filter p).length =
      (site.userRules.filter p).length + if p r && r.isUserRule then 1 else 0 := by
  obtain ⟨front, back, hold, hnew⟩ := site.exists_split_insertRule place r
  rw [userRules, userRules, List.filter_filter, List.filter_filter, hold, hnew,
    List.filter_append, List.filter_append, List.filter_cons, List.length_append,
    List.length_append]
  split
  · rw [List.length_cons]
    omega
  · omega

/-- What a list of rules gives one by one, with one more rule. -/
theorem filterMap_insertRule (site : Site) (place : Nat) (r : Rule) (f : Rule → Option β) :
    (site.insertRule place r).rules.filterMap f =
      (site.rules.take place).filterMap f ++
        ((f r).toList ++ (site.rules.drop place).filterMap f) := by
  rw [rules_insertRule, List.filterMap_append, List.filterMap_cons]
  cases f r with
  | none => rfl
  | some _ => rfl

theorem filterMap_insertRule_iff {f : Rule → Option β} :
    (site.insertRule place r).rules.filterMap f = site.rules.filterMap f ↔ f r = none := by
  obtain ⟨front, back, hold, hnew⟩ := site.exists_split_insertRule place r
  rw [hold, hnew, List.filterMap_append, List.filterMap_append]
  cases hf : f r with
  | none => simp [hf]
  | some b =>
      rw [List.filterMap_cons_some hf]
      refine iff_of_false (fun h => ?_) (Option.some_ne_none b)
      have hlength := congrArg List.length h
      rw [List.length_append, List.length_append, List.length_cons] at hlength
      omega

/-! ## Traces -/

/-- With one more rule, the rule that decides on some traffic is the one that did, or else the new
one, which then can decide. -/
theorem effective_insertRule (site : Site) (place : Nat) (r : Rule) (source destination : Network)
    (filter : TrafficFilter) (newOnly : Bool) :
    ((site.insertRule place r).trace source destination filter newOnly).effective =
        (site.trace source destination filter newOnly).effective ∨
      (((site.insertRule place r).trace source destination filter newOnly).effective = some r ∧
        Rule.isCandidate (site.rulesTraffic source destination filter) newOnly r = true) := by
  have hinsert := Rule.effective_insert (site.rules.take place) (site.rules.drop place)
    (site.rulesTraffic source destination filter) newOnly r
  rw [List.take_append_drop] at hinsert
  exact hinsert

/-- A rule that cannot decide on some traffic changes nothing about it. -/
theorem trace_insertRule {source destination : Network} {filter : TrafficFilter} {newOnly : Bool}
    (h : Rule.isCandidate (site.rulesTraffic source destination filter) newOnly r = false) :
    (site.insertRule place r).trace source destination filter newOnly =
      site.trace source destination filter newOnly := by
  have hinsert := Rule.evaluate_insert (site.rules.take place) (site.rules.drop place) h
  rw [List.take_append_drop] at hinsert
  exact hinsert

/-- A rule that does not keep a network off the internet changes nothing about its access. -/
theorem internetBlocked_insertRule {n : Network}
    (h : (site.blocksInternet r && site.selects r.source n .covers) = false) :
    (site.insertRule place r).internetBlocked n = site.internetBlocked n := by
  change (!n.internet || (site.insertRule place r).rules.any fun s =>
    site.blocksInternet s && site.selects s.source n .covers) = _
  rw [any_insertRule, h, Bool.false_or]
  rfl

end Site

/-! ## Checks -/

namespace Audit

variable {site : Site} {rules : List Rule}

/-- The families of checks that do not look at rules. -/
theorem runCheck_withRules {check : Check}
    (h : check = .infrastructurePlacement ∨ check = .exposure) :
    runCheck (site.withRules rules) check = runCheck site check := by
  rcases h with rfl | rfl
  · rfl
  · rfl

theorem NetworkPosture.findings_congr
    (h : ∀ n, (site.withRules rules).internetBlocked n = site.internetBlocked n) :
    NetworkPosture.findings (site.withRules rules) = NetworkPosture.findings site := by
  have hnetwork : ∀ n, NetworkPosture.ofNetwork (site.withRules rules) n =
      NetworkPosture.ofNetwork site n := by
    intro n
    simp only [NetworkPosture.ofNetwork, NetworkPosture.byPurpose, NetworkPosture.ofSecurity,
      NetworkPosture.ofManagement, h]
    rfl
  rw [NetworkPosture.findings, funext hnetwork]
  rfl

theorem Isolation.bypass_congr {source destination : Network}
    (h : (site.withRules rules).trace source destination .everything true =
      site.trace source destination .everything true) :
    Isolation.bypass? (site.withRules rules) source destination =
      Isolation.bypass? site source destination := by
  rw [Isolation.bypass?, h]
  rfl

/-- The isolation check says the same about two sites if traces of fresh connections are the same,
and the same networks are blocked from each other. -/
theorem Isolation.findings_congr
    (htrace : ∀ a b, (site.withRules rules).trace a b .everything true =
      site.trace a b .everything true)
    (hblocked : ∀ a b, Isolation.isBlocked (site.withRules rules) a b =
      Isolation.isBlocked site a b) :
    Isolation.findings (site.withRules rules) = Isolation.findings site := by
  have hpair : ∀ a b, Isolation.finding? (site.withRules rules) a b =
      Isolation.finding? site a b := by
    intro a b
    simp only [Isolation.finding?, Isolation.bypass_congr (htrace a b),
      Isolation.bypass_congr (htrace b a), hblocked]
  simp only [Isolation.findings, hpair]
  rfl

/-- The shadowing check sees the rules of users in their order, and no others. -/
theorem Shadowing.findings_congr
    (h : Shadowing.userOrder (site.withRules rules) = Shadowing.userOrder site) :
    Shadowing.findings (site.withRules rules) = Shadowing.findings site := by
  have hdead : Shadowing.deadRules (site.withRules rules) = Shadowing.deadRules site := by
    rw [Shadowing.deadRules, h]
    rfl
  have hexceptions : Shadowing.exceptions (site.withRules rules) = Shadowing.exceptions site := by
    rw [Shadowing.exceptions, Shadowing.deadAllowIds, hdead, h]
    rfl
  rw [Shadowing.findings, hdead, hexceptions]
  rfl

theorem ManagementAccess.findings_congr
    (h : ∀ n, ManagementAccess.unmet (site.withRules rules) n = ManagementAccess.unmet site n) :
    ManagementAccess.findings (site.withRules rules) = ManagementAccess.findings site := by
  simp only [ManagementAccess.findings, h]
  rfl

end Audit

end SiteAudit

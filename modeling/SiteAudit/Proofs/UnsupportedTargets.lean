import SiteAudit.Proofs.Bystanders
import SiteAudit.Proofs.Containment

/-!
# Sides that are not understood

A target of a kind that is not supported matches nothing, and so a rule with
such a side matches no flow.  One should expect that no check says a word about
such a rule, nor anything else because of it.  Checks that ask about traffic live
up to that, as do references to networks that are gone, where the other side is
what counts.

The remaining checks do not ask what a side matches, but whether it is any, or
whether it is pinned down, or which port it has, or whether any contains it.  A
side that is not understood then passes for one that is wide.  So the rule is
without a trace only under conditions, and here these are made out exactly:
remove the rule, and some audit differs by more than references that are gone
unless every one of them holds.

## Main results

* `Rule.HasUnsupportedSide.noTraffic`, `Rule.HasUnsupportedSide.bystander` — what
  such a rule cannot do.
* `Audit.LeavesNoTrace` — the conditions.
* `Audit.unsupported_leaves_no_trace_iff` — they hold exactly if all audits are
  the same without the rule.
-/

namespace SiteAudit

/-- A side that is not understood. -/
def Endpoint.IsUnsupported (e : Endpoint) : Prop := ∃ name, e.target = .unsupported name

def Rule.HasUnsupportedSide (r : Rule) : Prop :=
  r.source.IsUnsupported ∨ r.destination.IsUnsupported

/-! ## Sides -/

namespace Endpoint.IsUnsupported

variable {e : Endpoint}

theorem isAny (h : e.IsUnsupported) : e.isAny = false := by
  obtain ⟨name, h⟩ := h
  simp [Endpoint.isAny, h]

theorem isPinned (h : e.IsUnsupported) : e.isPinned = e.port.isSome := by
  obtain ⟨name, h⟩ := h
  simp [Endpoint.isPinned, h]

theorem domains (h : e.IsUnsupported) : e.domains = [] := by
  obtain ⟨name, h⟩ := h
  simp [Endpoint.domains, h]

theorem selects (h : e.IsUnsupported) (site : Site) (n : Network) (reach : Reach) :
    site.selects e n reach = false := by
  obtain ⟨name, h⟩ := h
  simp [Site.selects, Target.selects, h]

theorem endpointContains (h : e.IsUnsupported) (site : Site) (inner : Endpoint) :
    Scope.endpointContains site e inner = false := by
  obtain ⟨name, h⟩ := h
  have htarget : Scope.targetContains site e.target inner.target = false := by
    rw [h]
    cases inner.target <;> rfl
  rw [Scope.endpointContains, htarget, Bool.and_false]

theorem endpointsOverlap (h : e.IsUnsupported) (site : Site) (other : Endpoint) :
    Scope.endpointsOverlap site e other = false ∧ Scope.endpointsOverlap site other e = false := by
  obtain ⟨name, h⟩ := h
  have hleft : Scope.targetOverlaps site e.target other.target = false := by
    rw [h]
    rfl
  have hright : Scope.targetOverlaps site other.target e.target = false := by
    rw [h]
    cases other.target <;> rfl
  simp only [Scope.endpointsOverlap, hleft, hright, Bool.and_false, and_self]

end Endpoint.IsUnsupported

/-! ## Rules -/

namespace Rule.HasUnsupportedSide

variable {r : Rule}

theorem rulesTraffic (h : r.HasUnsupportedSide) (site : Site) (source destination : Network)
    (filter : TrafficFilter) : site.rulesTraffic source destination filter r = false := by
  rcases h with h | h
  · rw [Site.rulesTraffic, h.selects, Bool.false_and, Bool.false_and]
  · rw [Site.rulesTraffic, h.selects, Bool.and_false, Bool.false_and]

theorem noTraffic (h : r.HasUnsupportedSide) (site : Site) : site.NoTraffic r where
  trace _ _ _ _ := by
    rw [isCandidate, h.rulesTraffic, Bool.and_false, Bool.false_and]
  internet n := by
    rcases h with h | h
    · rw [h.selects, Bool.and_false]
    · simp [Site.blocksInternet, h.isAny]
  bypass n := by
    rcases h with h | h
    · simp [Audit.InternetBypass.bypass?, h.selects]
    · obtain ⟨name, h⟩ := h
      simp [Audit.InternetBypass.bypass?, Audit.InternetBypass.reason?, h]

theorem ruleContains (h : r.HasUnsupportedSide) (site : Site) (inner : Rule) :
    Scope.ruleContains site r inner = false := by
  rcases h with h | h
  · simp [Scope.ruleContains, h.endpointContains]
  · simp [Scope.ruleContains, h.endpointContains]

theorem rulesOverlap (h : r.HasUnsupportedSide) (site : Site) (other : Rule) :
    Scope.rulesOverlap site r other = false ∧ Scope.rulesOverlap site other r = false := by
  rcases h with h | h
  · simp [Scope.rulesOverlap, h.endpointsOverlap site other.source]
  · simp [Scope.rulesOverlap, h.endpointsOverlap site other.destination]

theorem bystander (h : r.HasUnsupportedSide) (site : Site) :
    Audit.Shadowing.Bystander site r where
  eclipsesNone s := by rw [Audit.Shadowing.eclipses, h.ruleContains, Bool.and_false]
  exemptsNone s := by
    rw [Audit.Shadowing.exempts, (h.rulesOverlap site s).1, Bool.and_false, Bool.false_and]
  exemptedByNone s := by
    rw [Audit.Shadowing.exempts, (h.rulesOverlap site s).2, Bool.and_false, Bool.false_and]

/-- Of the services of a management network, such a rule can give the time, and no other one. -/
theorem gives_eq_false (h : r.HasUnsupportedSide) (site : Site) (n : Network) {req : Requirement}
    (hreq : req ≠ .ntp) : Audit.ManagementAccess.gives site r n req = false := by
  rcases h with h | h
  · rw [Audit.ManagementAccess.gives, h.selects, Bool.and_false, Bool.false_and]
  · have hsatisfies : Audit.ManagementAccess.satisfies site r req = false := by
      cases req with
      | ntp => exact absurd rfl hreq
      | unifi | afc | cellular =>
          simp [Audit.ManagementAccess.satisfies, Audit.ManagementAccess.coversHost,
            Audit.ManagementAccess.reachesEverything, h.domains, h.isAny]
    rw [Audit.ManagementAccess.gives, hsatisfies, Bool.and_false]

end Rule.HasUnsupportedSide

namespace Audit

variable {site : Site} {place : Nat} {r : Rule}

/-! ## Audits of one family of checks -/

/-- The settings under which a single family of checks runs. -/
def only (check : Check) : AuditSettings := ⟨none, Check.all.filter (· != check), none⟩

theorem run_only (site : Site) (check : Check) : run site (only check) = runCheck site check := by
  have henabled : Check.all.filter (only check).isEnabled = [check] := by
    cases check <;> rfl
  rw [run, allFindings, henabled, List.flatMap_cons, List.flatMap_nil, List.append_nil]
  exact List.filter_eq_self.2 fun _ _ => rfl

/-- The families of checks that do not ask what a side matches. -/
def comparesSides : List Check := [.managementAccess, .shadowing, .permissive, .isolationExceptions]

theorem kind_ne_orphanedRule {check : Check} (hcheck : check ∈ comparesSides) {f : Finding}
    (hf : f ∈ runCheck site check) : f.kind ≠ .orphanedRule := by
  intro hkind
  cases check with
  | managementAccess =>
      obtain ⟨n, _, hf⟩ := List.mem_flatMap.1 hf
      obtain ⟨req, _, rfl⟩ := List.mem_map.1 hf
      cases req <;> cases hkind
  | shadowing =>
      rcases List.mem_append.1 hf with hf | hf
      · obtain ⟨⟨s, e⟩, _, rfl⟩ := List.mem_map.1 hf
        simp only [Shadowing.dead] at hkind
        split at hkind <;> cases hkind
      · obtain ⟨⟨allow, block⟩, _, rfl⟩ := List.mem_map.1 hf
        rw [Shadowing.kind_exception] at hkind
        cases hkind
  | permissive =>
      obtain ⟨s, _, hs⟩ := List.mem_filterMap.1 hf
      obtain ⟨breadth, _, rfl⟩ := Option.map_eq_some_iff.1 hs
      cases breadth <;> cases hkind
  | isolationExceptions =>
      obtain ⟨n, _, hf⟩ := List.mem_flatMap.1 hf
      obtain ⟨s, _, rfl⟩ := List.mem_map.1 hf
      cases hkind
  | orphaned | interVlanIsolation | internetBypass | infrastructurePlacement
  | networkConfiguration | exposure => simp [comparesSides] at hcheck

/-! ## Rules without a trace -/

/-- What it takes for a rule with a side that is not understood to leave no trace in the audits of
a site, if it stands at a place among the rules there are. -/
structure LeavesNoTrace (others : Site) (place : Nat) (r : Rule) : Prop where
  /-- A rule that allows fresh connections is any on neither side, or has a port on the other. -/
  narrow : r.isUserRule = true → r.allowsNew = true →
    (r.source.isAny = true → r.destination.port.isSome = true) ∧
      (r.destination.isAny = true → r.source.port.isSome = true)
  /-- No rule of the opposite action that is tried before it contains it. -/
  live : r.isUserRule = true → (r.isAllow || r.isBlock) = true →
    ∀ e ∈ Rule.triedBefore r.index (others.rules.take place) (others.rules.drop place),
      e.isUserRule = true → Shadowing.eclipses others e r = false
  /-- It allows no time requests of a management network that no other rule allows. -/
  time : ∀ n ∈ others.managementNetworks, .ntp ∈ ManagementAccess.unmet others n →
    ManagementAccess.gives others r n .ntp = false
  /-- It opens no exception to an isolated network. -/
  exception : ∀ n ∈ others.networks, IsolationExceptions.isEnforced others n = true →
    r.isUserRule = true → IsolationExceptions.isException others n r = false
  /-- It is not what enforces the isolation of a network with exceptions. -/
  generated : ∀ n ∈ others.networks, n.isolated = true →
    IsolationExceptions.isGenerated others n r = true →
      IsolationExceptions.isEnforced others n = false →
        ∀ s ∈ others.userRules, IsolationExceptions.isException others n s = false

theorem Breadth.breadth_eq_none_iff (h : r.HasUnsupportedSide) :
    Breadth.breadth? site r = none ↔
      (r.isUserRule = true → r.allowsNew = true →
        (r.source.isAny = true → r.destination.port.isSome = true) ∧
          (r.destination.isAny = true → r.source.port.isSome = true)) := by
  -- Only one side can be any, and then the other one is pinned down by a port or not at all.
  have hwide : Breadth.isWideOpen site r = false := by
    rcases h with h | h
    · simp [Breadth.isWideOpen, Endpoint.isOpen, h.isAny]
    · simp [Breadth.isWideOpen, Endpoint.isOpen, h.isAny]
  have hbroad : Breadth.isBroad r = false ↔
      (r.source.isAny = true → r.destination.port.isSome = true) ∧
        (r.destination.isAny = true → r.source.port.isSome = true) := by
    rcases h with h | h
    · simp [Breadth.isBroad, h.isAny, h.isPinned]
    · simp [Breadth.isBroad, h.isAny, h.isPinned]
  rw [Breadth.breadth?, hwide, ← hbroad]
  cases r.isUserRule with
  | false => simp
  | true =>
      cases r.allowsNew with
      | false => simp
      | true => cases Breadth.isBroad r <;> simp

/-- The conditions are those under which the four families of checks are the same without the
rule. -/
theorem leavesNoTrace_iff (h : r.HasUnsupportedSide) :
    LeavesNoTrace site place r ↔
      ∀ check ∈ comparesSides, runCheck (site.insertRule place r) check = runCheck site check := by
  have hinternet : ∀ n, (site.insertRule place r).internetBlocked n = site.internetBlocked n :=
    fun n => Site.internetBlocked_insertRule ((h.noTraffic site).internet n)
  constructor
  · intro hnone check hcheck
    cases check with
    | managementAccess =>
        refine (ManagementAccess.findings_insertRule_iff hinternet).2 fun n hn req hreq => ?_
        by_cases htime : req = .ntp
        · subst htime
          exact hnone.time n hn hreq
        · exact h.gives_eq_false site n htime
    | shadowing => exact (Shadowing.findings_insertRule_iff (h.bystander site)).2 hnone.live
    | permissive =>
        exact Breadth.findings_insertRule_iff.2 ((Breadth.breadth_eq_none_iff h).2 hnone.narrow)
    | isolationExceptions =>
        exact IsolationExceptions.findings_insertRule_iff.2 fun n hn =>
          ⟨hnone.exception n hn, hnone.generated n hn⟩
    | orphaned | interVlanIsolation | internetBypass | infrastructurePlacement
    | networkConfiguration | exposure => simp [comparesSides] at hcheck
  · intro hsame
    have hmanagement := (ManagementAccess.findings_insertRule_iff hinternet).1
      (hsame .managementAccess (by decide))
    have hshadowing := (Shadowing.findings_insertRule_iff (h.bystander site)).1
      (hsame .shadowing (by decide))
    have hbreadth := Breadth.findings_insertRule_iff.1 (hsame .permissive (by decide))
    have hexceptions := IsolationExceptions.findings_insertRule_iff.1
      (hsame .isolationExceptions (by decide))
    exact {
      narrow := (Breadth.breadth_eq_none_iff h).1 hbreadth
      live := hshadowing
      time := fun n hn hreq => hmanagement n hn .ntp hreq
      exception := fun n hn => (hexceptions n hn).1
      generated := fun n hn => (hexceptions n hn).2 }

/-- **When a rule that is not understood leaves no trace.**  At every site, take away a rule with
a side that is not understood.  All traces stay as they are, and so do the networks that have no
internet access, and the families of checks that ask about traffic.  Under all settings the
findings are the same, but for one perhaps that says that the rule refers to networks that are
gone, exactly if the conditions for leaving no trace hold. -/
theorem unsupported_leaves_no_trace_iff (site : Site) {place : Nat} {r : Rule}
    (hr : site.rules[place]? = some r) (h : r.HasUnsupportedSide) :
    (∀ source destination filter newOnly, site.trace source destination filter newOnly =
        (site.eraseRule place).trace source destination filter newOnly) ∧
      (∀ n, site.internetBlocked n = (site.eraseRule place).internetBlocked n) ∧
      (∀ check ∈ asksTraffic, runCheck site check = runCheck (site.eraseRule place) check) ∧
      ((∀ settings, OrphanApart r (run site settings) (run (site.eraseRule place) settings)) ↔
        LeavesNoTrace (site.eraseRule place) place r) := by
  have hinsert : (site.eraseRule place).insertRule place r = site := Site.insertRule_eraseRule hr
  have htraffic := h.noTraffic (site.eraseRule place)
  generalize site.eraseRule place = others at hinsert htraffic ⊢
  subst hinsert
  refine ⟨fun _ _ _ _ => Site.trace_insertRule (htraffic.trace _ _ _ _),
    fun n => Site.internetBlocked_insertRule (htraffic.internet n),
    fun check => runCheck_insertRule_of_noTraffic htraffic, ?_⟩
  rw [leavesNoTrace_iff h]
  constructor
  · intro hall check hcheck
    have hrun := hall (only check)
    rw [run_only, run_only] at hrun
    exact hrun.eq fun f => kind_ne_orphanedRule hcheck
  · intro hsame settings
    refine run_insertRule settings fun check horphaned => ?_
    by_cases hcheck : check ∈ comparesSides
    · exact hsame check hcheck
    · refine runCheck_insertRule_of_noTraffic htraffic ?_
      -- The families are those that ask about traffic, those that compare sides, and the orphans.
      cases check <;> simp_all [comparesSides, asksTraffic]

end Audit

/-- Lets what comes from a region reach cameras. -/
def fromRegion : Rule :=
  { id := "from-region", name := "From region", action := .allow, enabled := true
    predefined := false, index := 1, protocol := ⟨.all, false⟩, stateType := .all, states := .empty
    source := ⟨.unsupported "REGION", none, none, false⟩
    destination := ⟨.network ["cams"] false, none, none, false⟩
    ruleset := none, hitCount := none }

/-- Lets everything reach a region. -/
def toRegion : Rule :=
  { fromRegion with
      id := "to-region", name := "To region", source := .everything
      destination := ⟨.unsupported "REGION", none, none, false⟩ }

namespace Audit

/-- A rule from a region to a network that the site has leaves no trace. -/
theorem unsupported_leaves_no_trace_fromRegion :
    let site := Site.ofRules [fromRegion] [cameras]
    site.rules[0]? = some fromRegion ∧ fromRegion.HasUnsupportedSide ∧
      ∀ settings, OrphanApart fromRegion (run site settings) (run (site.eraseRule 0) settings) := by
  intro site
  have hr : site.rules[0]? = some fromRegion := rfl
  have hside : fromRegion.HasUnsupportedSide := Or.inl ⟨"REGION", rfl⟩
  have hnone : LeavesNoTrace (site.eraseRule 0) 0 fromRegion :=
    { narrow := by decide
      live := fun _ _ e he => by
        rcases Rule.mem_triedBefore.1 he with ⟨he, _⟩ | ⟨he, _⟩
        · cases he
        · cases he
      time := by decide
      exception := by decide
      generated := by decide }
  obtain ⟨_, _, _, hiff⟩ := unsupported_leaves_no_trace_iff site hr hside
  exact ⟨hr, hside, hiff.2 hnone⟩

/-- A rule from everywhere to a region is said to be broad. -/
theorem toRegion_leaves_trace :
    let site := Site.ofRules [toRegion] []
    site.rules[0]? = some toRegion ∧ toRegion.HasUnsupportedSide ∧
      ¬OrphanApart toRegion (run site .default) (run (site.eraseRule 0) .default) := by
  intro site
  have hbreadth : Breadth.breadth? site toRegion = some .broad := by decide
  have hcheck : ((Breadth.finding toRegion .broad).withRule "to-region").withDetail "protocol"
      toRegion.protocol.summary ∈ runCheck site .permissive :=
    List.mem_filterMap.2 ⟨toRegion, by decide, by rw [hbreadth]; rfl⟩
  have hbroad : _ ∈ run site .default := mem_run.2 ⟨⟨.permissive, rfl, hcheck⟩, rfl⟩
  have hnothing : ∀ check, runCheck (site.eraseRule 0) check = [] := by
    intro check
    cases check with
    | shadowing =>
        have horder : Shadowing.userOrder (site.eraseRule 0) = [] := Rule.inOrder_of_pairwise .nil
        change Shadowing.findings (site.eraseRule 0) = []
        rw [Shadowing.findings, Shadowing.deadRules, Shadowing.exceptions, horder]
        rfl
    | _ => rfl
  refine ⟨rfl, Or.inr ⟨"REGION", rfl⟩, fun hapart => ?_⟩
  obtain ⟨⟨check, _, hmem⟩, _⟩ := mem_run.1 (hapart.mem hbroad (by decide))
  rw [hnothing check] at hmem
  cases hmem

end Audit

end SiteAudit

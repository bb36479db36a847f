import Mathlib.Data.List.Basic
import Mathlib.Data.List.Flatten
import SiteAudit.Proofs.RuleTables

/-!
# What one more rule adds

A rule that is put in changes a check in a way that can be read off the rule and
the site without it.  Checks that ask about traffic look past a rule that decides
on none.  For the checks that report on rules one by one the rule adds its own
finding.  A management network lacks fewer services, if the rule gives one.  For
isolated networks the rule may be an exception, or it may be what enforces the
isolation.

So for each check there is an exact answer to the question whether the rule
changes anything, and where all checks but one are the same, so are the audits
but for one finding.

## Main results

* `Audit.runCheck_insertRule_of_noTraffic` — half of the checks look past a rule
  that decides on no traffic.
* `Audit.Breadth.findings_insertRule_iff`,
  `Audit.ManagementAccess.findings_insertRule_iff`,
  `Audit.IsolationExceptions.findings_insertRule_iff` — when a check is the same
  with the rule and without it.
* `Audit.run_insertRule` — what an audit says if all checks but one are the same.
-/

namespace SiteAudit

/-! ## Collections that shrink -/

/-- If every part of a collection is contained in the part of another one, the two are the same
only where each part is. -/
theorem flatMap_eq_iff_of_sublist {parts : List α} {f g : α → List β}
    (h : ∀ x ∈ parts, (f x).Sublist (g x)) :
    parts.flatMap f = parts.flatMap g ↔ ∀ x ∈ parts, f x = g x := by
  refine ⟨fun heq => ?_, List.flatMap_congr⟩
  induction parts with
  | nil => simp
  | cons a parts ih =>
      have hrest : ∀ x ∈ parts, (f x).Sublist (g x) := fun x hx => h x (List.mem_cons_of_mem a hx)
      have hhead : (f a).Sublist (g a) := h a List.mem_cons_self
      have htail : (parts.flatMap f).Sublist (parts.flatMap g) :=
        List.Sublist.flatMap_right parts hrest
      rw [List.flatMap_cons, List.flatMap_cons] at heq
      -- Neither part is longer than its counterpart, so that both are of the same length.
      have hlength := congrArg List.length heq
      rw [List.length_append, List.length_append] at hlength
      have hle := hhead.length_le
      have hle' := htail.length_le
      have hsame : f a = g a := hhead.eq_of_length (by omega)
      rw [hsame] at heq
      intro x hx
      rcases List.mem_cons.1 hx with rfl | hx
      · exact hsame
      · exact ih hrest (List.append_cancel_left heq) x hx

theorem flatMap_filter (parts : List α) (p : α → Bool) (f : α → List β) :
    (parts.filter p).flatMap f = parts.flatMap fun x => if p x then f x else [] := by
  induction parts with
  | nil => rfl
  | cons a parts ih =>
      by_cases ha : p a = true
      · simp [ha, ih]
      · simp [ha, ih]

/-! ## Rules that decide on no traffic -/

/-- No traffic of the site depends on the rule: none between networks, and none to the internet. -/
structure Site.NoTraffic (site : Site) (r : Rule) : Prop where
  trace : ∀ source destination filter newOnly,
    Rule.isCandidate (site.rulesTraffic source destination filter) newOnly r = false
  internet : ∀ n, (site.blocksInternet r && site.selects r.source n .covers) = false
  bypass : ∀ n, Audit.InternetBypass.bypass? site r n = none

variable {site : Site} {place : Nat} {r : Rule}

namespace Audit

theorem Isolation.blocks_eq_false_of_noTraffic (h : site.NoTraffic r) (a b : Network) :
    Isolation.blocks site a b r = false := by
  cases hblocks : Isolation.blocks site a b r with
  | false => rfl
  | true =>
      -- A rule that blocks the traffic can decide on it.
      simp only [Isolation.blocks, Bool.and_eq_true] at hblocks
      obtain ⟨⟨⟨henabled, hnew⟩, hsource⟩, hdestination⟩ := hblocks
      obtain ⟨haction, _⟩ := Rule.blocksNew_eq_true_iff.1 hnew
      have hcandidate := h.trace a b .everything false
      simp [Rule.isCandidate, Site.rulesTraffic, TrafficFilter.admits, TrafficFilter.everything,
        henabled, haction, hsource, hdestination] at hcandidate

/-- The families of checks that ask about traffic only, or not about rules at all. -/
def asksTraffic : List Check :=
  [.interVlanIsolation, .internetBypass, .infrastructurePlacement, .networkConfiguration,
    .exposure]

theorem runCheck_insertRule_of_noTraffic (h : site.NoTraffic r) {check : Check}
    (hcheck : check ∈ asksTraffic) :
    runCheck (site.insertRule place r) check = runCheck site check := by
  have hinternet : ∀ n, (site.insertRule place r).internetBlocked n = site.internetBlocked n :=
    fun n => Site.internetBlocked_insertRule (h.internet n)
  cases check with
  | interVlanIsolation =>
      refine Isolation.findings_congr (fun a b => Site.trace_insertRule (h.trace a b _ _))
        fun a b => ?_
      have hany := site.any_insertRule place r fun s =>
        Isolation.blocks site a b s || Isolation.blocks site b a s
      rw [Isolation.blocks_eq_false_of_noTraffic h, Isolation.blocks_eq_false_of_noTraffic h]
        at hany
      exact hany
  | internetBypass =>
      change ((site.insertRule place r).networks.filter
        (site.insertRule place r).internetBlocked).flatMap _ = _
      rw [funext hinternet]
      refine List.flatMap_congr fun n _ => ?_
      have hnone : InternetBypass.bypass? (site.insertRule place r) r n = none := h.bypass n
      exact Site.filterMap_insertRule_iff.2 (by rw [hnone]; rfl)
  | infrastructurePlacement => exact runCheck_withRules (Or.inl rfl)
  | networkConfiguration => exact NetworkPosture.findings_congr hinternet
  | exposure => exact runCheck_withRules (Or.inr rfl)
  | managementAccess | shadowing | permissive | orphaned | isolationExceptions =>
      simp [asksTraffic] at hcheck

/-! ## Rules that allow too much -/

/-- What is reported of one rule. -/
def Breadth.report? (site : Site) (r : Rule) : Option Finding :=
  (Breadth.breadth? site r).map fun breadth =>
    (Breadth.finding r breadth).withRule r.id |>.withDetail "protocol" r.protocol.summary

theorem Breadth.findings_insertRule_iff :
    Breadth.findings (site.insertRule place r) = Breadth.findings site ↔
      Breadth.breadth? site r = none := by
  have hwith : Breadth.findings (site.insertRule place r) =
      (site.insertRule place r).rules.filterMap (Breadth.report? site) := rfl
  have hwithout : Breadth.findings site = site.rules.filterMap (Breadth.report? site) := rfl
  rw [hwith, hwithout, Site.filterMap_insertRule_iff, Breadth.report?, Option.map_eq_none_iff]

/-! ## Services of management networks -/

/-- Whether a rule of a user gives a service to a network that its source touches. -/
def ManagementAccess.gives (site : Site) (r : Rule) (n : Network) (req : Requirement) : Bool :=
  r.isUserRule && r.isAllow && site.selects r.source n .touches &&
    ManagementAccess.satisfies site r req

theorem ManagementAccess.any_candidates (site : Site) (n : Network) (req : Requirement) :
    ((ManagementAccess.candidates site n).any fun r => ManagementAccess.satisfies site r req) =
      site.rules.any fun r => ManagementAccess.gives site r n req := by
  rw [ManagementAccess.candidates, Site.userRules, List.filter_filter, List.any_filter]
  refine List.any_congr rfl fun s => ?_
  rw [ManagementAccess.gives]
  cases s.isUserRule <;> simp

/-- The services that a network lacks are those it lacked, without those that the rule gives. -/
theorem ManagementAccess.unmet_insertRule {n : Network}
    (hinternet : (site.insertRule place r).internetBlocked n = site.internetBlocked n) :
    ManagementAccess.unmet (site.insertRule place r) n =
      (ManagementAccess.unmet site n).filter fun req =>
        !ManagementAccess.gives site r n req := by
  have hwith : ∀ req, ((ManagementAccess.candidates (site.insertRule place r) n).any fun s =>
      ManagementAccess.satisfies (site.insertRule place r) s req) =
        (ManagementAccess.gives site r n req ||
          (ManagementAccess.candidates site n).any fun s =>
            ManagementAccess.satisfies site s req) := by
    intro req
    rw [ManagementAccess.any_candidates, ManagementAccess.any_candidates, Site.any_insertRule]
    rfl
  rw [ManagementAccess.unmet, ManagementAccess.unmet, hinternet]
  simp only [hwith, Bool.not_or]
  split
  · rw [List.filter_filter]
    rfl
  · rfl

theorem ManagementAccess.findings_insertRule_iff
    (hinternet : ∀ n, (site.insertRule place r).internetBlocked n = site.internetBlocked n) :
    ManagementAccess.findings (site.insertRule place r) = ManagementAccess.findings site ↔
      ∀ n ∈ site.managementNetworks, ∀ req ∈ ManagementAccess.unmet site n,
        ManagementAccess.gives site r n req = false := by
  have hwith : ManagementAccess.findings (site.insertRule place r) =
      site.managementNetworks.flatMap fun n =>
        (ManagementAccess.unmet (site.insertRule place r) n).map
          (ManagementAccess.missing n) := rfl
  rw [hwith, ManagementAccess.findings, flatMap_eq_iff_of_sublist]
  · refine forall₂_congr fun n _ => ?_
    rw [ManagementAccess.unmet_insertRule (hinternet n)]
    constructor
    · intro h
      have hlength := congrArg List.length h
      rw [List.length_map, List.length_map] at hlength
      have hall := List.filter_eq_self.1 (List.filter_sublist.eq_of_length hlength)
      intro req hreq
      simpa using hall req hreq
    · intro h
      rw [List.filter_eq_self.2 fun req hreq => by simp [h req hreq]]
  · intro n _
    rw [ManagementAccess.unmet_insertRule (hinternet n)]
    exact List.filter_sublist.map _

/-! ## Exceptions to isolated networks -/

namespace IsolationExceptions

theorem isEnforced_insertRule (n : Network) :
    isEnforced (site.insertRule place r) n =
      (isEnforced site n || (n.isolated && isGenerated site n r)) := by
  rw [isEnforced, Site.any_insertRule, isEnforced, ← Bool.and_or_distrib_left, Bool.or_comm]
  rfl

/-- The findings about the exceptions to one network. -/
def ofNetwork (site : Site) (n : Network) : List Finding :=
  if isEnforced site n then (site.userRules.filter (isException site n)).map (finding site n)
  else []

theorem findings_eq (site : Site) :
    findings site = site.networks.flatMap (ofNetwork site) := flatMap_filter ..

/-- A rule that enforces isolation is not one of a user. -/
theorem isUserRule_eq_false_of_isGenerated {n : Network} (h : isGenerated site n r = true) :
    r.isUserRule = false := by
  simp only [isGenerated, Bool.and_eq_true] at h
  obtain ⟨⟨⟨⟨_, hpredefined⟩, _⟩, _⟩, _⟩ := h
  simp [Rule.isUserRule, hpredefined]

theorem ofNetwork_insertRule_eq (place : Nat) (r : Rule) (n : Network) :
    ofNetwork (site.insertRule place r) n =
      if isEnforced site n || (n.isolated && isGenerated site n r) then
        ((site.insertRule place r).userRules.filter (isException site n)).map (finding site n)
      else [] := by
  rw [ofNetwork, isEnforced_insertRule]
  rfl

theorem sublist_ofNetwork_insertRule (n : Network) :
    (ofNetwork site n).Sublist (ofNetwork (site.insertRule place r) n) := by
  rw [ofNetwork_insertRule_eq, ofNetwork]
  cases isEnforced site n with
  | true => exact ((site.sublist_userRules_insertRule place r).filter _).map _
  | false => exact List.nil_sublist _

theorem ofNetwork_insertRule_iff (n : Network) :
    ofNetwork site n = ofNetwork (site.insertRule place r) n ↔
      (isEnforced site n = true → r.isUserRule = true → isException site n r = false) ∧
        (n.isolated = true → isGenerated site n r = true → isEnforced site n = false →
          ∀ s ∈ site.userRules, isException site n s = false) := by
  rw [ofNetwork_insertRule_eq, ofNetwork]
  cases henforced : isEnforced site n with
  | true =>
      -- The network has its exceptions anyway, so the rule must not be one of them.
      simp only [Bool.true_or, if_true, true_implies, Bool.true_eq_false, false_implies,
        implies_true, and_true]
      constructor
      · intro h huser
        have hlength := congrArg List.length h
        rw [List.length_map, List.length_map] at hlength
        rw [Site.length_filter_userRules_insertRule, huser, Bool.and_true] at hlength
        cases hexception : isException site n r with
        | false => rfl
        | true =>
            rw [hexception, if_pos rfl] at hlength
            omega
      · intro h
        have hnone : (isException site n r && r.isUserRule) = false := by
          cases huser : r.isUserRule with
          | false => exact Bool.and_false _
          | true => rw [h huser, Bool.false_and]
        rw [Site.filter_userRules_insertRule hnone]
  | false =>
      -- The exceptions show only if the rule enforces the isolation, and then it is not a user's.
      simp only [Bool.false_or, Bool.false_eq_true, if_false, false_implies, true_implies,
        true_and]
      cases hisolated : n.isolated with
      | false => simp
      | true =>
          cases hgenerated : isGenerated site n r with
          | false => simp
          | true =>
              have hnone : (isException site n r && r.isUserRule) = false := by
                rw [isUserRule_eq_false_of_isGenerated hgenerated, Bool.and_false]
              rw [Site.filter_userRules_insertRule hnone, if_pos (by simp), eq_comm,
                List.map_eq_nil_iff, List.filter_eq_nil_iff]
              simp only [Bool.not_eq_true, true_implies]

theorem findings_insertRule_iff :
    findings (site.insertRule place r) = findings site ↔
      ∀ n ∈ site.networks,
        (isEnforced site n = true → r.isUserRule = true → isException site n r = false) ∧
          (n.isolated = true → isGenerated site n r = true → isEnforced site n = false →
            ∀ s ∈ site.userRules, isException site n s = false) := by
  rw [findings_eq, findings_eq, eq_comm]
  have hnetworks : (site.insertRule place r).networks = site.networks := rfl
  rw [hnetworks, flatMap_eq_iff_of_sublist fun n _ => sublist_ofNetwork_insertRule n]
  exact forall₂_congr fun n _ => ofNetwork_insertRule_iff n

end IsolationExceptions

/-! ## Rules in each other's way -/

/-- The shadowing check looks past a rule that is not one of a user or does not decide. -/
theorem Shadowing.findings_insertRule_of_unread
    (h : ((r.isAllow || r.isBlock) && r.isUserRule) = false) :
    Shadowing.findings (site.insertRule place r) = Shadowing.findings site := by
  refine Shadowing.findings_congr ?_
  change Shadowing.userOrder (site.insertRule place r) = _
  rw [Shadowing.userOrder, Site.filter_userRules_insertRule h]
  rfl

/-! ## References to networks that are gone -/

/-- The findings are the others, or the others and one more, which says that the rule refers to
networks that are gone. -/
def OrphanApart (r : Rule) (findings others : List Finding) : Prop :=
  findings = others ∨ ∃ front back f, others = front ++ back ∧ findings = front ++ f :: back ∧
    f.kind = .orphanedRule ∧ f.ruleId = some r.id

namespace OrphanApart

variable {findings others : List Finding}

theorem append_left (h : OrphanApart r findings others) (more : List Finding) :
    OrphanApart r (more ++ findings) (more ++ others) := by
  rcases h with rfl | ⟨front, back, f, rfl, rfl, hf⟩
  · exact Or.inl rfl
  · exact Or.inr ⟨more ++ front, back, f, by simp, by simp, hf⟩

theorem append_right (h : OrphanApart r findings others) (more : List Finding) :
    OrphanApart r (findings ++ more) (others ++ more) := by
  rcases h with rfl | ⟨front, back, f, rfl, rfl, hf⟩
  · exact Or.inl rfl
  · exact Or.inr ⟨front, back ++ more, f, by simp, by simp, hf⟩

theorem filter (h : OrphanApart r findings others) (p : Finding → Bool) :
    OrphanApart r (findings.filter p) (others.filter p) := by
  rcases h with rfl | ⟨front, back, f, rfl, rfl, hf⟩
  · exact Or.inl rfl
  · by_cases hp : p f = true
    · exact Or.inr ⟨front.filter p, back.filter p, f, by simp, by simp [hp], hf⟩
    · exact Or.inl (by simp [hp])

/-- Where one part of a collection is apart and all others are the same, the whole is apart. -/
theorem flatMap {parts : List α} (hnodup : parts.Nodup) {a : α}
    {f g : α → List Finding} (hsame : ∀ x ∈ parts, x ≠ a → f x = g x)
    (ha : OrphanApart r (f a) (g a)) : OrphanApart r (parts.flatMap f) (parts.flatMap g) := by
  induction parts with
  | nil => exact Or.inl rfl
  | cons x parts ih =>
      obtain ⟨hfresh, hnodup⟩ := List.nodup_cons.1 hnodup
      have hrest : ∀ y ∈ parts, y ≠ a → f y = g y := fun y hy =>
        hsame y (List.mem_cons_of_mem x hy)
      rw [List.flatMap_cons, List.flatMap_cons]
      by_cases hx : x = a
      · subst hx
        have hlater : parts.flatMap f = parts.flatMap g :=
          List.flatMap_congr fun y hy => hrest y hy fun hyx => hfresh (hyx ▸ hy)
        rw [hlater]
        exact ha.append_right _
      · rw [hsame x List.mem_cons_self hx]
        exact (ih hnodup hrest).append_left _

theorem mem (h : OrphanApart r findings others)
    {f : Finding} (hf : f ∈ findings) (hkind : f.kind ≠ .orphanedRule) : f ∈ others := by
  rcases h with rfl | ⟨front, back, g, rfl, rfl, hg, _⟩
  · exact hf
  · rcases List.mem_append.1 hf with hf | hf
    · exact List.mem_append_left back hf
    · rcases List.mem_cons.1 hf with rfl | hf
      · exact absurd hg hkind
      · exact List.mem_append_right front hf

theorem eq (h : OrphanApart r findings others)
    (hkinds : ∀ f ∈ findings, f.kind ≠ .orphanedRule) : findings = others := by
  rcases h with hsame | ⟨front, back, f, _, rfl, hkind, _⟩
  · exact hsame
  · exact absurd hkind (hkinds f (by simp))

end OrphanApart

theorem Orphans.kind_of_finding {f : Finding} (h : Orphans.finding? site r = some f) :
    f.kind = .orphanedRule ∧ f.ruleId = some r.id := by
  simp only [Orphans.finding?] at h
  split at h
  · cases h
    exact ⟨rfl, rfl⟩
  · cases h

theorem Orphans.findings_insertRule (site : Site) (place : Nat) (r : Rule) :
    OrphanApart r (Orphans.findings (site.insertRule place r)) (Orphans.findings site) := by
  change OrphanApart r (if site.networks.isEmpty then []
    else (site.insertRule place r).rules.filterMap (Orphans.finding? site)) _
  rw [Orphans.findings]
  split
  · exact Or.inl rfl
  · cases hfinding : Orphans.finding? site r with
    | none => exact Or.inl (Site.filterMap_insertRule_iff.2 hfinding)
    | some f =>
        refine Or.inr ⟨(site.rules.take place).filterMap (Orphans.finding? site),
          (site.rules.drop place).filterMap (Orphans.finding? site), f, ?_, ?_,
          Orphans.kind_of_finding hfinding⟩
        · rw [← List.filterMap_append, List.take_append_drop]
        · rw [Site.filterMap_insertRule, hfinding]
          rfl

/-- Where all other checks look past a rule, an audit says at most that it refers to networks that
are gone. -/
theorem run_insertRule (settings : AuditSettings)
    (h : ∀ check, check ≠ .orphaned →
      runCheck (site.insertRule place r) check = runCheck site check) :
    OrphanApart r (run (site.insertRule place r) settings) (run site settings) := by
  have hnodup : (Check.all.filter settings.isEnabled).Nodup := by
    have hall : Check.all.Nodup := by decide
    exact hall.filter _
  exact (OrphanApart.flatMap hnodup (fun check _ => h check)
    (Orphans.findings_insertRule site place r)).filter _

end Audit

end SiteAudit

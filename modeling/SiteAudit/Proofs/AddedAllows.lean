import SiteAudit.Proofs.AddedRules

/-!
# Added allow rules

A management network that is isolated and offline lacks some services, and each
finding about it says what to allow.  Whoever follows it puts in an allow rule, and
expects that the finding goes away, that no other one comes up, and that nothing is
said differently about networks which the rule has nothing to do with.

A rule could spoil this in two ways.  It could change which networks depend on such
rules, but that is a matter of switches and block rules, and an allow rule does not
block.  Or it could give a service to a network it does not touch, but each network
has candidates of its own.  What is left is a filter: from the findings about the
networks that the rule touches it takes those about services that it gives.

## Main results

* `remedy_meets` — what the findings say to allow is enough.
* `ofNetwork_insertRule` — the findings about one network, with one more allow rule.
* `findingsAbout_eq` — the findings with the id of a network are about the networks
  with this id.
* `added_allow_only_clears` — all findings together.
-/

namespace SiteAudit

namespace Requirement

/-- The destination that the finding about a missing service says to allow. -/
def remedy : Requirement → Endpoint
  | unifi => ⟨.web ["ui.com"], none, none, false⟩
  | afc => ⟨.web ["afc.ui.com"], none, none, false⟩
  | ntp => ⟨.any, none, some "123", false⟩
  | cellular => ⟨.web ["3gppnetwork.org"], none, none, false⟩

/-- No two services share a kind of finding. -/
theorem finding_inj {req other : Requirement} : req.finding = other.finding ↔ req = other := by
  cases req <;> cases other <;> decide

end Requirement

namespace Audit.ManagementAccess

variable {site : Site} {place : Nat} {r : Rule} {n : Network}

/-! ## Findings about one network -/

/-- What is said about one management network. -/
def ofNetwork (site : Site) (n : Network) : List Finding := (unmet site n).map (missing n)

/-- The kinds of findings about the services that a rule gives. -/
def clearedKinds (site : Site) (r : Rule) : List FindingKind :=
  (requirementsMet site r).map Requirement.finding

theorem findings_eq_flatMap (site : Site) :
    findings site = site.managementNetworks.flatMap (ofNetwork site) := rfl

theorem finding_mem_clearedKinds {req : Requirement} :
    req.finding ∈ clearedKinds site r ↔ req ∈ requirementsMet site r := by
  rw [clearedKinds, List.mem_map]
  constructor
  · rintro ⟨other, hother, hsame⟩
    rwa [← Requirement.finding_inj.1 hsame]
  · exact fun hreq => ⟨req, hreq, rfl⟩

/-- An allow rule to what a finding says to allow gives the service. -/
theorem remedy_meets (hallow : r.isAllow = true) {req : Requirement}
    (h : r.destination = req.remedy) : req ∈ requirementsMet site r := by
  refine mem_requirementsMet.2 ⟨hallow, ?_⟩
  cases req with
  | unifi | afc =>
      rw [satisfies, coversHost, h]
      decide
  | ntp =>
      rw [satisfies, reachesTime, h]
      decide
  | cellular =>
      have hcovers : coversHost r .cellular = true := by
        rw [coversHost, h]
        decide
      rw [satisfies, hcovers, Bool.true_or]

/-! ## One more allow rule -/

/-- An allow rule keeps no network off the internet. -/
theorem internetBlocked_insertRule_of_isAllow (hallow : r.isAllow = true) (n : Network) :
    (site.insertRule place r).internetBlocked n = site.internetBlocked n := by
  refine Site.internetBlocked_insertRule ?_
  have haction : r.action = .allow := by simpa [Rule.isAllow] using hallow
  simp [Site.blocksInternet, Rule.blocksNew, Rule.isBlock, haction]

/-- A rule that does not touch a network leaves what is said about it as it was, and so does a
rule that is not one of a user. -/
theorem ofNetwork_insertRule_of_apart (hallow : r.isAllow = true)
    (h : r.isUserRule = false ∨ site.selects r.source n .touches = false) :
    ofNetwork (site.insertRule place r) n = ofNetwork site n := by
  have hgives : ∀ req, gives site r n req = false := by
    intro req
    rcases h with huser | htouches
    · simp [gives, huser]
    · simp [gives, htouches]
  rw [ofNetwork, unmet_insertRule (internetBlocked_insertRule_of_isAllow hallow n),
    List.filter_eq_self.2 fun req _ => by rw [hgives]; rfl]
  rfl

/-- A rule of a user that touches a network takes away what is said about the services it gives. -/
theorem ofNetwork_insertRule (hallow : r.isAllow = true) (huser : r.isUserRule = true)
    (htouches : site.selects r.source n .touches = true) :
    ofNetwork (site.insertRule place r) n =
      (ofNetwork site n).filter fun f => !(clearedKinds site r).contains f.kind := by
  have hgives : ∀ req, gives site r n req = (clearedKinds site r).contains req.finding := by
    intro req
    rw [Bool.eq_iff_iff, List.contains_iff_mem, finding_mem_clearedKinds, mem_requirementsMet]
    simp [gives, hallow, huser, htouches]
  rw [ofNetwork, unmet_insertRule (internetBlocked_insertRule_of_isAllow hallow n), ofNetwork,
    List.filter_map]
  refine congrArg (List.map (missing n)) (List.filter_congr fun req _ => ?_)
  rw [hgives]
  rfl

theorem sublist_ofNetwork_insertRule (hallow : r.isAllow = true) (n : Network) :
    (ofNetwork (site.insertRule place r) n).Sublist (ofNetwork site n) := by
  rw [ofNetwork, unmet_insertRule (internetBlocked_insertRule_of_isAllow hallow n)]
  exact List.filter_sublist.map _

/-! ## Findings about an id -/

/-- Whether a finding names the network with an id. -/
def isAbout (id : String) (f : Finding) : Bool := f.details.entries.contains ("network_id", id)

/-- What is said about management networks with an id. -/
def findingsAbout (site : Site) (id : String) : List Finding := (findings site).filter (isAbout id)

theorem isAbout_missing (id : String) (n : Network) (req : Requirement) :
    isAbout id (missing n req) = (n.id == id) := by
  have hentries : (missing n req).details.entries = [("network_id", n.id)] := rfl
  rw [isAbout, hentries, Bool.eq_iff_iff, List.contains_iff_mem, List.mem_singleton,
    Prod.mk.injEq, beq_iff_eq]
  exact ⟨fun h => h.2.symm, fun h => ⟨rfl, h.symm⟩⟩

theorem filter_ofNetwork (id : String) (n : Network) :
    (ofNetwork site n).filter (isAbout id) = if n.id == id then ofNetwork site n else [] := by
  have hmap : (ofNetwork site n).filter (isAbout id) =
      ((unmet site n).filter fun _ => n.id == id).map (missing n) := by
    rw [ofNetwork, List.filter_map]
    exact congrArg _ (List.filter_congr fun req _ => isAbout_missing id n req)
  rw [hmap]
  cases n.id == id <;> simp [ofNetwork]

/-- The findings with an id are those about the management networks with this id. -/
theorem findingsAbout_eq (site : Site) (id : String) :
    findingsAbout site id =
      (site.managementNetworks.filter (·.id == id)).flatMap (ofNetwork site) := by
  rw [findingsAbout, findings_eq_flatMap, List.filter_flatMap, flatMap_filter]
  exact List.flatMap_congr fun n _ => filter_ofNetwork id n

/-! ## Summary -/

/-- **Allow rules only clear findings, and the remedy works.**  At every site let an allow rule be
put in at any place, with any index.  What is then said about services of management networks is
part of what was said, in the same order.  About a network that the source of the rule does not
touch, the same is said as before.  If the rule is in force and one of a user, then about a network
that its source touches the same is said but for the services that the rule gives, about which
nothing is left.  In the list of all findings a network is known by its id, and there the two hold
of an id if they hold of the management networks with this id, that is of the one network where ids
are distinct.  A rule to the destination that a finding names gives the service. -/
theorem added_allow_only_clears (site : Site) (place : Nat) {r : Rule}
    (hallow : r.isAllow = true) :
    (findings (site.insertRule place r)).Sublist (findings site) ∧
      (∀ n ∈ site.managementNetworks,
        (site.selects r.source n .touches = false →
          ofNetwork (site.insertRule place r) n = ofNetwork site n) ∧
        (r.enabled = true → r.predefined = false → site.selects r.source n .touches = true →
          ofNetwork (site.insertRule place r) n =
              (ofNetwork site n).filter (fun f => !(clearedKinds site r).contains f.kind) ∧
            ∀ req ∈ requirementsMet site r, ∀ f ∈ ofNetwork (site.insertRule place r) n,
              f.kind ≠ req.finding)) ∧
      (∀ id,
        ((∀ n ∈ site.managementNetworks, n.id = id →
            site.selects r.source n .touches = false) →
          findingsAbout (site.insertRule place r) id = findingsAbout site id) ∧
        (r.enabled = true → r.predefined = false →
          (∀ n ∈ site.managementNetworks, n.id = id →
            site.selects r.source n .touches = true) →
          ∀ req ∈ requirementsMet site r, ∀ f ∈ findingsAbout (site.insertRule place r) id,
            f.kind ≠ req.finding)) ∧
      ∀ req : Requirement, r.destination = req.remedy → req ∈ requirementsMet site r := by
  have hapart : ∀ n, site.selects r.source n .touches = false →
      ofNetwork (site.insertRule place r) n = ofNetwork site n :=
    fun n htouches => ofNetwork_insertRule_of_apart hallow (Or.inr htouches)
  have hexact : ∀ n, r.enabled = true → r.predefined = false →
      site.selects r.source n .touches = true →
      ofNetwork (site.insertRule place r) n =
        (ofNetwork site n).filter fun f => !(clearedKinds site r).contains f.kind :=
    fun n henabled hpredefined htouches =>
      ofNetwork_insertRule hallow (by simp [Rule.isUserRule, henabled, hpredefined]) htouches
  have hcleared : ∀ n, r.enabled = true → r.predefined = false →
      site.selects r.source n .touches = true → ∀ req ∈ requirementsMet site r,
        ∀ f ∈ ofNetwork (site.insertRule place r) n, f.kind ≠ req.finding := by
    intro n henabled hpredefined htouches req hreq f hf hkind
    rw [hexact n henabled hpredefined htouches] at hf
    have hnot := (List.mem_filter.1 hf).2
    rw [hkind, List.contains_iff_mem.2 (finding_mem_clearedKinds.2 hreq)] at hnot
    cases hnot
  refine ⟨?_, fun n _ => ⟨hapart n, fun henabled hpredefined htouches =>
    ⟨hexact n henabled hpredefined htouches, hcleared n henabled hpredefined htouches⟩⟩,
    fun id => ⟨fun huntouched => ?_, fun henabled hpredefined htouched req hreq f hf => ?_⟩,
    fun req hremedy => remedy_meets hallow hremedy⟩
  · exact List.Sublist.flatMap_right _ fun n _ => sublist_ofNetwork_insertRule hallow n
  · rw [findingsAbout_eq, findingsAbout_eq]
    refine List.flatMap_congr fun n hn => ?_
    obtain ⟨hmem, hid⟩ := List.mem_filter.1 hn
    exact hapart n (huntouched n hmem (beq_iff_eq.1 hid))
  · rw [findingsAbout_eq] at hf
    obtain ⟨n, hn, hfound⟩ := List.mem_flatMap.1 hf
    obtain ⟨hmem, hid⟩ := List.mem_filter.1 hn
    exact hcleared n henabled hpredefined (htouched n hmem (beq_iff_eq.1 hid)) req hreq f hfound

end Audit.ManagementAccess

/-- A network of switches, kept from the internet and from all other networks. -/
def switches : Network :=
  { id := "switches", name := "Switch management", vlan := 99, purpose := .management
    statedPurpose := none, subnet := some (.ofBits .v4 0x0A630000 24), gateway := none
    dhcp := false, dnsServers := [], isolated := true, internet := false, zone := none
    group := none, switchRouted := false }

/-- A second network of the same sort, for consoles. -/
def consoles : Network :=
  { switches with id := "consoles", name := "Console management", vlan := 98
                  subnet := some (.ofBits .v4 0x0A620000 24) }

/-- Lets the addresses of switches reach the controller cloud. -/
def allowCloud : Rule :=
  { id := "cloud", name := "Cloud", action := .allow, enabled := true, predefined := false
    index := 3, protocol := .everything, stateType := .all, states := .empty
    source := ⟨.ip ["10.99.0.0/25"] false, none, none, false⟩
    destination := Requirement.unifi.remedy, ruleset := none, hitCount := none }

/-- Lets consoles ask for the time. -/
def allowTime : Rule :=
  { allowCloud with id := "time", name := "Time", index := 1
                    source := ⟨.network ["consoles"] false, none, none, false⟩
                    destination := Requirement.ntp.remedy }

namespace Audit.ManagementAccess

/-- The rule clears the finding about the cloud for switches, and with it the one about power
grants, whose server is in the same domain.  The time is missing as before, and nothing changes for
consoles. -/
theorem added_allow_only_clears_switches :
    let site := Site.ofRules [allowTime] [switches, consoles]
    allowCloud.isAllow = true ∧ switches ∈ site.managementNetworks ∧
      site.selects allowCloud.source switches .touches = true ∧
      Requirement.unifi ∈ requirementsMet site allowCloud ∧
      missing switches .unifi ∈ findings site ∧
      (∀ f ∈ findingsAbout (site.insertRule 0 allowCloud) "switches",
        f.kind ≠ .mgmtMissingUnifiAccess ∧ f.kind ≠ .mgmtMissingAfcAccess) ∧
      missing switches .ntp ∈ ofNetwork (site.insertRule 0 allowCloud) switches ∧
      findingsAbout (site.insertRule 0 allowCloud) "consoles" = findingsAbout site "consoles" := by
  intro site
  have hids :
      ∀ n ∈ site.managementNetworks, ∀ m ∈ site.managementNetworks, n.id = m.id → n = m := by
    decide
  have hswitches : switches ∈ site.managementNetworks := by decide
  have hconsoles : consoles ∈ site.managementNetworks := by decide
  have htouches : site.selects allowCloud.source switches .touches = true := by decide
  have hpasses : site.selects allowCloud.source consoles .touches = false := by decide
  obtain ⟨_, hnetworks, hfindings, hremedy⟩ :=
    added_allow_only_clears site 0 (r := allowCloud) rfl
  have hmeets : Requirement.unifi ∈ requirementsMet site allowCloud := hremedy .unifi rfl
  have hgrants : Requirement.afc ∈ requirementsMet site allowCloud := by decide
  have hexact := ((hnetworks switches hswitches).2 rfl rfl htouches).1
  have hcleared : ∀ req ∈ requirementsMet site allowCloud,
      ∀ f ∈ findingsAbout (site.insertRule 0 allowCloud) "switches", f.kind ≠ req.finding := by
    refine (hfindings "switches").2 rfl rfl fun n hn hid => ?_
    rwa [hids n hn switches hswitches hid]
  refine ⟨rfl, hswitches, htouches, hmeets, by decide, ?_, ?_, ?_⟩
  · exact fun f hf => ⟨hcleared .unifi hmeets f hf, hcleared .afc hgrants f hf⟩
  · rw [hexact]
    decide
  · refine (hfindings "consoles").1 fun n hn hid => ?_
    rwa [hids n hn consoles hconsoles hid]

end Audit.ManagementAccess

end SiteAudit

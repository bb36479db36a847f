import SiteAudit.Firewall.Flow
import SiteAudit.Proofs.Containment
import SiteAudit.Proofs.FirstMatch
import SiteAudit.Site.Trace

/-!
# Traces of networks and of addresses

A trace asks which rule decides on the traffic between two networks.  Rules
may select only a part of a network, so the answer is about some of the
traffic; what decides on one pair of addresses is found by asking the rules
about that pair.

The two questions meet in how much of a network a rule selects.  A rule that
selects an address touches the network of the address, and a rule that covers
a network selects each of its addresses.  Inverted entries exchange the two
halves, so each half needs both facts about blocks.

## Main results

* `Target.touches_of_selectsAddress`, `Target.selectsAddress_of_covers` — the
  two halves.
* `Target.appliesTo_of_selectsAddress` — an address that is selected means
  the parties at it.
* `Site.isCandidate_of_hits` — no rule that hits a pair of addresses is left
  out of the trace.
* `Site.trace_agrees_on_addresses` — what a trace says about each pair.
-/

namespace SiteAudit

/-! ## Single addresses -/

/-- Whether a target selects an address of a network, by the network's id or by the address.
Targets of the other kinds say nothing about places. -/
def Target.selectsAddress (t : Target) (n : Network) (a : Net.Address) : Bool :=
  match t with
  | .any => true
  | .network ids inverted => ids.contains n.id != inverted
  | .ip entries inverted => Net.Entries.anyContain entries a != inverted
  | _ => false

namespace Target

variable {t : Target} {n : Network} {subnet : Net.Block} {a : Net.Address}

/-- An address that is selected is reason enough to touch its network. -/
theorem touches_of_selectsAddress (hsubnet : n.subnet = some subnet)
    (ha : subnet.contains a = true) (h : t.selectsAddress n a = true) :
    t.selects n .touches = true := by
  cases t with
  | any => rfl
  | network ids inverted => exact h
  | ip entries inverted =>
      cases inverted with
      | false =>
          have hcontain : Net.Entries.anyContain entries a = true := by
            simpa [selectsAddress] using h
          simpa [selects, hsubnet] using Net.Entries.anyOverlap_of_anyContain hcontain ha
      | true =>
          have hnot : Net.Entries.anyContain entries a = false := by
            simpa [selectsAddress] using h
          simpa [selects, hsubnet] using Net.Entries.anyCover_eq_false hnot ha
  | client | web | app | appCategory | unsupported => simp [selectsAddress] at h

/-- A network that is covered has no address that is not selected. -/
theorem selectsAddress_of_covers (hsubnet : n.subnet = some subnet)
    (ha : subnet.contains a = true) (h : t.selects n .covers = true) :
    t.selectsAddress n a = true := by
  cases t with
  | any => rfl
  | network ids inverted => exact h
  | ip entries inverted =>
      cases inverted with
      | false =>
          have hcover : Net.Entries.anyCover entries subnet = true := by
            simpa [selects, hsubnet] using h
          simpa [selectsAddress] using Net.Entries.anyContain_of_anyCover hcover ha
      | true =>
          have hoverlap : Net.Entries.anyOverlap entries subnet = false := by
            simpa [selects, hsubnet] using h
          simpa [selectsAddress] using Net.Entries.anyContain_eq_false hoverlap ha
  | client | web | app | appCategory | unsupported => simp [selects] at h

/-- What selects an address selects every party at this address, in this network. -/
theorem appliesTo_of_selectsAddress {p : Party} (hnetwork : p.network = some n.id)
    (haddress : p.address = a) (h : t.selectsAddress n a = true) : t.appliesTo p = true := by
  cases t with
  | any => rfl
  | network ids inverted => simpa [appliesTo, selectsAddress, hnetwork] using h
  | ip entries inverted => simpa [appliesTo, selectsAddress, haddress] using h
  | client | web | app | appCategory | unsupported => simp [selectsAddress] at h

end Target

namespace Site

/-- Whether a side selects an address of a network. -/
def selectsAddress (site : Site) (e : Endpoint) (n : Network) (a : Net.Address) : Bool :=
  site.zoneAdmits e n && e.target.selectsAddress n a

/-- Whether a rule can decide on the traffic from one address to another. -/
def hits (site : Site) (source destination : Network) (filter : TrafficFilter)
    (x y : Net.Address) (r : Rule) : Bool :=
  r.enabled && r.action != .unknown && site.selectsAddress r.source source x &&
    site.selectsAddress r.destination destination y && filter.admits r

theorem hits_iff {site : Site} {source destination : Network} {filter : TrafficFilter}
    {x y : Net.Address} {r : Rule} :
    site.hits source destination filter x y r = true ↔
      r.enabled = true ∧ r.action ≠ .unknown ∧ site.selectsAddress r.source source x = true ∧
        site.selectsAddress r.destination destination y = true ∧ filter.admits r = true := by
  simp [hits, and_assoc]

theorem touches_of_selectsAddress {site : Site} {e : Endpoint} {n : Network}
    {subnet : Net.Block} {a : Net.Address} (hsubnet : n.subnet = some subnet)
    (ha : subnet.contains a = true) (h : site.selectsAddress e n a = true) :
    site.selects e n .touches = true := by
  rw [selectsAddress, Bool.and_eq_true] at h
  rw [selects, Bool.and_eq_true]
  exact ⟨h.1, Target.touches_of_selectsAddress hsubnet ha h.2⟩

theorem selectsAddress_of_covers {site : Site} {e : Endpoint} {n : Network}
    {subnet : Net.Block} {a : Net.Address} (hsubnet : n.subnet = some subnet)
    (ha : subnet.contains a = true) (h : site.selects e n .covers = true) :
    site.selectsAddress e n a = true := by
  rw [selects, Bool.and_eq_true] at h
  rw [selectsAddress, Bool.and_eq_true]
  exact ⟨h.1, Target.selectsAddress_of_covers hsubnet ha h.2⟩

/-! ## Traces -/

section Traces

variable {site : Site} {source destination : Network} {sourceSubnet destinationSubnet : Net.Block}
  {filter : TrafficFilter} {x y : Net.Address} {r : Rule}

/-- A rule that hits a pair of addresses can decide on the trace of their networks. -/
theorem isCandidate_of_hits (hsource : source.subnet = some sourceSubnet)
    (hdestination : destination.subnet = some destinationSubnet)
    (hx : sourceSubnet.contains x = true) (hy : destinationSubnet.contains y = true)
    (h : site.hits source destination filter x y r = true) :
    Rule.isCandidate (site.rulesTraffic source destination filter) false r = true := by
  obtain ⟨henabled, hknown, hfrom, hto, hadmits⟩ := hits_iff.1 h
  have htraffic : site.rulesTraffic source destination filter r = true := by
    simp only [rulesTraffic, Bool.and_eq_true]
    exact ⟨⟨touches_of_selectsAddress hsource hx hfrom,
      touches_of_selectsAddress hdestination hy hto⟩, hadmits⟩
  exact Rule.isCandidate_iff.2 ⟨henabled, hknown, htraffic, by simp⟩

/-- A rule that can decide on the trace hits every pair of addresses if it covers both networks. -/
theorem hits_of_covers (hsource : source.subnet = some sourceSubnet)
    (hdestination : destination.subnet = some destinationSubnet)
    (hx : sourceSubnet.contains x = true) (hy : destinationSubnet.contains y = true)
    (hr : Rule.isCandidate (site.rulesTraffic source destination filter) false r = true)
    (hfrom : site.selects r.source source .covers = true)
    (hto : site.selects r.destination destination .covers = true) :
    site.hits source destination filter x y r = true := by
  obtain ⟨henabled, hknown, htraffic, _⟩ := Rule.isCandidate_iff.1 hr
  simp only [rulesTraffic, Bool.and_eq_true] at htraffic
  exact hits_iff.2 ⟨henabled, hknown, selectsAddress_of_covers hsource hx hfrom,
    selectsAddress_of_covers hdestination hy hto, htraffic.2⟩

/-- **A trace agrees with what decides on single addresses.**  Between two networks with subnets
and for every filter: if no rule decides, no rule hits any pair of addresses.  If the rule that
decides covers both networks, it is the rule that decides on every pair: of all rules that hit the
pair it has the least index and, among those, the least place. -/
theorem trace_agrees_on_addresses (site : Site) (filter : TrafficFilter)
    (hsource : source.subnet = some sourceSubnet)
    (hdestination : destination.subnet = some destinationSubnet) :
    ((site.trace source destination filter false).effective = none →
      ∀ x y, sourceSubnet.contains x = true → destinationSubnet.contains y = true →
        ∀ r ∈ site.rules, site.hits source destination filter x y r = false) ∧
    ∀ r, (site.trace source destination filter false).effective = some r →
      site.selects r.source source .covers = true →
      site.selects r.destination destination .covers = true →
      ∀ x y, sourceSubnet.contains x = true → destinationSubnet.contains y = true →
        Rule.IsFirst site.rules (site.hits source destination filter x y · = true) r := by
  refine ⟨fun hnone x y hx hy r hr => ?_, fun r hsome hfrom hto x y hx hy => ?_⟩
  · have hnot := Rule.effective_eq_none_iff.1 hnone r hr
    rw [Bool.eq_false_iff]
    intro hhits
    exact hnot (isCandidate_of_hits hsource hdestination hx hy hhits)
  · have hfirst := Rule.effective_eq_some_iff.1 hsome
    have hhits : site.hits source destination filter x y r = true :=
      hits_of_covers hsource hdestination hx hy hfirst.prop hfrom hto
    exact hfirst.mono hhits fun s _ hs => isCandidate_of_hits hsource hdestination hx hy hs

/-- The network of the recorders. -/
def recorders : Network :=
  { cameras with id := "nvr", name := "Recorders", vlan := 40
                 subnet := some (.ofBits .v4 0x0A280000 24) }

/-- Blocks everything from the addresses of guests. -/
def blockGuests : Rule :=
  { id := "guests", name := "Guests", action := .block, enabled := true, predefined := false
    index := 1, protocol := ⟨.all, false⟩, stateType := .all, states := .empty
    source := ⟨.ip ["10.31.0.0/16"] false, none, none, false⟩, destination := .everything
    ruleset := none, hitCount := none }

/-- Lets everything but the laboratory reach the recorders.  One entry cannot be read. -/
def allowRecording : Rule :=
  { id := "recording", name := "Recording", action := .allow, enabled := true, predefined := false
    index := 2, protocol := ⟨.tcp, false⟩, stateType := .all, states := .empty
    source := ⟨.ip ["192.168.0.0/16", "laboratory"] true, none, none, false⟩
    destination := ⟨.network ["nvr"] false, none, none, false⟩
    ruleset := none, hitCount := none }

/-- One rule decides on the recordings of every camera, and none on its echo requests. -/
theorem trace_agrees_on_addresses_recording :
    let site := Site.ofRules [blockGuests, allowRecording] [cameras, recorders]
    let camera : Net.Address := .ofBits .v4 0x0A1E0005
    let recorder : Net.Address := .ofBits .v4 0x0A280009
    Rule.IsFirst site.rules
        (site.hits cameras recorders ⟨some .tcp, none⟩ camera recorder · = true)
        allowRecording ∧
      site.hits cameras recorders ⟨some .icmp, none⟩ camera recorder allowRecording = false := by
  intro site camera recorder
  have horder : Rule.inOrder site.rules = [blockGuests, allowRecording] :=
    Rule.inOrder_of_pairwise (by decide)
  have hsome : (site.trace cameras recorders ⟨some .tcp, none⟩ false).effective =
      some allowRecording := by
    rw [trace, Rule.effective_eq_find, horder]
    decide
  have hnone : (site.trace cameras recorders ⟨some .icmp, none⟩ false).effective = none := by
    rw [trace, Rule.effective_eq_find, horder]
    decide
  exact ⟨(trace_agrees_on_addresses site _ rfl rfl).2 _ hsome (by decide) (by decide) camera
      recorder (by decide) (by decide),
    (trace_agrees_on_addresses site _ rfl rfl).1 hnone camera recorder (by decide) (by decide)
      _ (by decide)⟩

end Traces

end Site

end SiteAudit

import SiteAudit.Proofs.AddressTrace

/-!
# Networks that a rule takes offline

A network counts as offline if its own switch is off, or if a rule blocks the
fresh connections of all of it to the whole internet.  The test for such a rule
is about networks and zones; here it is compared with the rule's meaning, which
is about single connections.

Most of what could narrow a rule down is asked for: its protocol, its states,
the addresses and the port of its destination, and the part of the network
that its source selects.  Only the port of its source is not.  A rule for some
source ports therefore counts like one for all, while it matches no more than
the connections from these ports; nothing else separates the two.

A network that is in no zone the site knows may be in any inner zone, and is
admitted to each.  For such a network the question is about connections from
the zone that the rule names.

## Main results

* `Site.zoneAdmits_iff` — which zones admit a network.
* `Site.takesOffline_iff` — what a rule has to be to take a network offline.
* `Endpoint.appliesTo_of_covers` — a side that covers a network is narrowed by
  nothing but its port.
* `Rule.appliesTo_iff_of_takesOffline` — the connections that such a rule
  matches.
* `offline_rule_matches_iff` — what holds of a network that counts as offline.
* `offline_for_one_source_port` — such a network with most of its connections
  left.
-/

namespace SiteAudit

/-! ## Networks and their zones -/

namespace Site

variable {site : Site} {n : Network} {r : Rule}

/-- The zone of a network as far as the site knows: the one it names itself, or else the one that
lists it. -/
def zoneOf? (site : Site) (n : Network) : Option String :=
  n.zone.or ((site.zones.owner? n.id).map Zone.id)

/-- A zone that is named has to be inside, and that of the network if this is known. -/
theorem zoneAdmits_iff {e : Endpoint} :
    site.zoneAdmits e n = true ↔
      ∀ zone ∈ e.zone, site.isExternal e = false ∧ site.isGateway e = false ∧
        ∀ own ∈ site.zoneOf? n, own = zone := by
  rw [zoneAdmits, zoneOf?]
  cases hzone : e.zone with
  | none => simp
  | some zone =>
      cases n.zone with
      | some own => simp [and_assoc]
      | none => cases site.zones.owner? n.id <;> simp [and_assoc]

/-! ## Rules that take a network offline -/

/-- Whether a rule takes a network offline, as the audit tests it. -/
def takesOffline (site : Site) (n : Network) (r : Rule) : Bool :=
  site.blocksInternet r && site.selects r.source n .covers

/-- A network that is not switched off counts as offline exactly if a rule takes it offline. -/
theorem internetBlocked_iff_takesOffline (hswitch : n.internet = true) :
    site.internetBlocked n = true ↔ ∃ r ∈ site.rules, site.takesOffline n r = true := by
  simp [internetBlocked_iff, takesOffline, hswitch]

theorem takesOffline_iff :
    site.takesOffline n r = true ↔
      r.enabled = true ∧ r.action = .block ∧ r.matchesNew = true ∧
        r.destination.target = .any ∧ r.destination.port = none ∧
        r.protocol.isEverything = true ∧ site.reachesInternet r.destination = true ∧
        site.selects r.source n .covers = true := by
  simp [takesOffline, blocksInternet, Rule.blocksNew_eq_true_iff, Endpoint.isAny, and_assoc]

end Site

/-! ## Connections of a network -/

/-- A party at an address of a network, in the zone of the network if the site knows one. -/
structure Party.IsIn (p : Party) (site : Site) (n : Network) : Prop where
  network : p.network = some n.id
  address : n.contains p.address = true
  zone : ∀ zone ∈ site.zoneOf? n, p.zone = some zone

/-- A fresh connection out of a network, of the kind that is asked about for a rule: to the zone
that its destination names, or to anywhere if it names none.  Out of a network in no known zone
it comes from the zone that the source names. -/
structure Flow.Leaves (f : Flow) (site : Site) (n : Network) (r : Rule) : Prop where
  state : f.state = "NEW"
  source : f.source.IsIn site n
  sourceZone : site.zoneOf? n = none → ∀ zone ∈ r.source.zone, f.source.zone = some zone
  destinationZone : ∀ zone ∈ r.destination.zone, f.destination.zone = some zone

section Connections

variable {site : Site} {n : Network} {subnet : Net.Block} {r : Rule} {f : Flow}

/-- A side that covers a network is narrowed by nothing but its port. -/
theorem Endpoint.appliesTo_of_covers {e : Endpoint} {p : Party} (hsubnet : n.subnet = some subnet)
    (hcovers : site.selects e n .covers = true) (hp : p.IsIn site n)
    (hzone : site.zoneOf? n = none → ∀ zone ∈ e.zone, p.zone = some zone) :
    e.appliesTo p = true ↔ e.includesPort p.port = true := by
  rw [Site.selects, Bool.and_eq_true, Site.zoneAdmits_iff] at hcovers
  obtain ⟨hadmits, htarget⟩ := hcovers
  have hzones : e.zone.all (p.zone == some ·) = true := by
    rw [Option.all_eq_true]
    intro zone hnamed
    rw [beq_iff_eq]
    cases hown : site.zoneOf? n with
    | none => exact hzone hown zone hnamed
    | some own =>
        have hsame : own = zone := (hadmits zone hnamed).2.2 own hown
        rw [hp.zone own hown, hsame]
  have haddress : subnet.contains p.address = true := by
    simpa [Network.contains, hsubnet] using hp.address
  have happlies : e.target.appliesTo p = true :=
    Target.appliesTo_of_selectsAddress hp.network rfl
      (Target.selectsAddress_of_covers hsubnet haddress htarget)
  rw [appliesTo, hzones, happlies, Bool.true_and, Bool.and_true]

/-- A rule that takes a network offline matches the connections from the ports of its source. -/
theorem Rule.appliesTo_iff_of_takesOffline (hsubnet : n.subnet = some subnet)
    (hr : site.takesOffline n r = true) (hf : f.Leaves site n r) :
    r.appliesTo f = true ↔ r.source.includesPort f.source.port = true := by
  obtain ⟨_, _, hnew, hany, hport, heverything, _, hcovers⟩ := Site.takesOffline_iff.1 hr
  have hprotocol : r.protocol.admits f.protocol = true :=
    ProtocolMatch.isEverything_iff.1 heverything f.protocol
  have hstate : f.state ∈ r.stateNames := by
    rw [hf.state]
    exact List.contains_iff_mem.1 hnew
  have hdestination : r.destination.appliesTo f.destination = true := by
    have hzones : r.destination.zone.all (f.destination.zone == some ·) = true := by
      rw [Option.all_eq_true]
      exact fun zone hnamed => beq_iff_eq.2 (hf.destinationZone zone hnamed)
    rw [Endpoint.appliesTo, hzones, Endpoint.includesPort, hport, hany]
    rfl
  have hsource := Endpoint.appliesTo_of_covers hsubnet hcovers hf.source hf.sourceZone
  rw [Rule.appliesTo_iff, hsource]
  exact ⟨fun h => h.2.2.1, fun h => ⟨hprotocol, hstate, h, hdestination⟩⟩

/-- Out of a network with a subnet, a connection can come from every port. -/
theorem exists_leaves (site : Site) (hsubnet : n.subnet = some subnet) (r : Rule) (port : String) :
    ∃ f : Flow, f.Leaves site n r ∧ f.source.port = port := by
  let client : Party :=
    { zone := (site.zoneOf? n).or r.source.zone, port := port, address := subnet.network
      network := some n.id, mac := "", host := "", app := 0, category := 0 }
  let server : Party := { client with zone := r.destination.zone, network := none }
  refine ⟨⟨.all, "NEW", client, server⟩, ⟨rfl, ⟨rfl, ?_, ?_⟩, ?_, fun zone hnamed => hnamed⟩, rfl⟩
  · simpa [Network.contains, hsubnet] using subnet.contains_first
  · intro zone hown
    change (site.zoneOf? n).or r.source.zone = some zone
    rw [Option.mem_def.1 hown, Option.some_or]
  · intro hunknown zone hnamed
    change (site.zoneOf? n).or r.source.zone = some zone
    rw [hunknown, Option.none_or]
    exact hnamed

end Connections

/-! ## Networks that count as offline -/

/-- **What takes a network offline.**  At every site, let a network with a subnet count as offline
although it is not switched off.  Then a rule of the site takes it offline, and every rule that
does so is in force and blocks.  Of the fresh connections from any address of the network, with
any protocol, to any destination port, and to any destination in the zone that the rule names, it
matches those that come from a port which its source includes.  So it matches all of them exactly
if its source includes every port. -/
theorem offline_rule_matches_iff (site : Site) {n : Network} {subnet : Net.Block}
    (hsubnet : n.subnet = some subnet) (hswitch : n.internet = true)
    (hoffline : site.internetBlocked n = true) :
    (∃ r ∈ site.rules, site.takesOffline n r = true) ∧
      ∀ r ∈ site.rules, site.takesOffline n r = true →
        r.enabled = true ∧ r.action = .block ∧
          (∀ f : Flow, f.Leaves site n r →
            (r.appliesTo f = true ↔ r.source.includesPort f.source.port = true)) ∧
          ((∀ f : Flow, f.Leaves site n r → r.appliesTo f = true) ↔
            ∀ port, r.source.includesPort port = true) := by
  refine ⟨(Site.internetBlocked_iff_takesOffline hswitch).1 hoffline, fun r _ hr => ?_⟩
  obtain ⟨henabled, hblock, _⟩ := Site.takesOffline_iff.1 hr
  have hmatches : ∀ f : Flow, f.Leaves site n r →
      (r.appliesTo f = true ↔ r.source.includesPort f.source.port = true) :=
    fun f hf => Rule.appliesTo_iff_of_takesOffline hsubnet hr hf
  refine ⟨henabled, hblock, hmatches, ?_, ?_⟩
  · intro hall port
    obtain ⟨f, hf, hport⟩ := exists_leaves site hsubnet r port
    rw [← hport]
    exact (hmatches f hf).1 (hall f hf)
  · exact fun hports f hf => (hmatches f hf).2 (hports f.source.port)

/-- Keeps cameras off the internet, by their addresses. -/
def keepCamerasHome : Rule :=
  { id := "cameras", name := "Cameras", action := .block, enabled := true, predefined := false
    index := 1, protocol := .everything, stateType := .all, states := .empty
    source := ⟨.ip ["10.30.0.0/16"] false, none, none, false⟩, destination := .everything
    ruleset := none, hitCount := none }

/-- The rule takes the cameras offline, and it matches all that they open. -/
theorem offline_rule_matches_iff_cameras :
    let site := Site.ofRules [keepCamerasHome] [cameras]
    cameras.subnet = some (.ofBits .v4 0x0A1E0000 24) ∧ cameras.internet = true ∧
      site.internetBlocked cameras = true ∧
      ∀ f : Flow, f.Leaves site cameras keepCamerasHome → keepCamerasHome.appliesTo f = true := by
  intro site
  have hoffline : site.internetBlocked cameras = true := by decide
  have hrule := (offline_rule_matches_iff site rfl rfl hoffline).2 keepCamerasHome (by decide)
    (by decide)
  exact ⟨rfl, rfl, hoffline, hrule.2.2.2.2 fun _ => rfl⟩

/-- Keeps cameras from name servers, but by the port on their own side. -/
def blockCameraQueries : Rule :=
  { keepCamerasHome with
      id := "queries", name := "Queries"
      source := ⟨.network ["cams"] false, none, some "53", false⟩ }

/-- A rule about one source port takes a network offline, and no rule matches all that the network
opens: what comes from any other port is left. -/
theorem offline_for_one_source_port :
    let site := Site.ofRules [blockCameraQueries] [cameras]
    cameras.subnet = some (.ofBits .v4 0x0A1E0000 24) ∧ cameras.internet = true ∧
      site.internetBlocked cameras = true ∧
      ¬∃ r ∈ site.rules, r.enabled = true ∧ r.action = .block ∧
        ∀ f : Flow, f.Leaves site cameras r → r.appliesTo f = true := by
  intro site
  have hsubnet : cameras.subnet = some (.ofBits .v4 0x0A1E0000 24) := rfl
  refine ⟨hsubnet, rfl, by decide, ?_⟩
  rintro ⟨r, hr, _, _, hall⟩
  obtain rfl : r = blockCameraQueries := by simpa [site, Site.ofRules] using hr
  obtain ⟨f, hf, hport⟩ := exists_leaves site hsubnet blockCameraQueries "50000"
  have hincludes := (Rule.appliesTo_iff_of_takesOffline hsubnet (by decide) hf).1 (hall f hf)
  rw [hport] at hincludes
  exact absurd hincludes (by decide)

end SiteAudit

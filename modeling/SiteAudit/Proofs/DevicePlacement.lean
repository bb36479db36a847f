import SiteAudit.Proofs.AddedAllows

/-!
# Devices that are moved

A finding about a device in the wrong place says to which network the device should
be moved.  Whoever follows it expects that this finding goes away, that the others
stay, and that the network is a sensible one: one for management with addresses to
give, and not the native one where there is another.

The networks that count are chosen in two steps: management networks with a subnet,
and of these the tagged ones if there are any.  The same choice serves to detect
devices elsewhere and to recommend a network, so the recommended one is always among
those where a device is at home.  It depends on networks alone, and so moving a
device leaves what is said about the others.

## Main results

* `mem_homes_iff` — the two steps as one condition.
* `flagged_eq_some_iff` — which devices there is a finding about.
* `flagged_eq_none_iff` — about which there is none.
* `moved_device_cleared` — what becomes of the findings if a device is moved.
-/

namespace SiteAudit

/-- The site with other devices in place of its own. -/
def Site.withDevices (site : Site) (devices : List Device) : Site :=
  { site with devices := devices }

/-- The device with another address. -/
def Device.movedTo (d : Device) (a : Net.Address) : Device := { d with ip := some a }

namespace Audit.Placement

variable {site : Site} {n home : Network} {d : Device} {f : Finding} {ip : Net.Address}

/-! ## Networks that devices belong on -/

/-- A management network of the site that has a subnet. -/
structure IsEligible (site : Site) (n : Network) : Prop where
  mem : n ∈ site.networks
  purpose : n.purpose = .management
  subnet : n.subnet.isSome = true

theorem mem_addressed_iff : n ∈ addressed site ↔ IsEligible site n := by
  rw [addressed, Site.managementNetworks, List.mem_filter, List.mem_filter, beq_iff_eq]
  exact ⟨fun h => ⟨h.1.1, h.1.2, h.2⟩, fun h => ⟨⟨h.mem, h.purpose⟩, h.subnet⟩⟩

/-- Devices belong on the eligible networks, without the native one where there is another. -/
theorem mem_homes_iff :
    n ∈ homes site ↔ IsEligible site n ∧
      ((∃ m, IsEligible site m ∧ m.vlan ≠ 1) → n.vlan ≠ 1) := by
  have htagged : ∀ m, m ∈ (addressed site).filter (!·.isNative) ↔
      IsEligible site m ∧ m.vlan ≠ 1 := by
    intro m
    rw [List.mem_filter, mem_addressed_iff, Network.isNative]
    simp
  simp only [homes]
  split
  · next hempty =>
    -- Without a tagged network the second step leaves everything.
    rw [List.isEmpty_iff, List.eq_nil_iff_forall_not_mem] at hempty
    rw [mem_addressed_iff]
    refine ⟨fun h => ⟨h, ?_⟩, And.left⟩
    rintro ⟨m, hm⟩
    exact absurd ((htagged m).2 hm) (hempty m)
  · next hsome =>
    rw [htagged]
    refine ⟨fun h => ⟨h.1, fun _ => h.2⟩, fun h => ⟨h.1, h.2 ?_⟩⟩
    rw [List.isEmpty_iff] at hsome
    obtain ⟨m, hm⟩ := List.exists_mem_of_ne_nil _ hsome
    exact ⟨m, (htagged m).1 hm⟩

/-- The network that devices are told to move to, if there is one. -/
def recommended? (site : Site) : Option Network := (homes site).head?

/-- Where a network is eligible, there is one to recommend. -/
theorem exists_recommended (hn : IsEligible site n) : ∃ home, recommended? site = some home := by
  have hne : homes site ≠ [] := by
    intro hempty
    have hnone : ∀ m, m ∉ homes site := List.eq_nil_iff_forall_not_mem.1 hempty
    -- If the network itself is passed over, then for a tagged one.
    by_cases htagged : ∃ m, IsEligible site m ∧ m.vlan ≠ 1
    · obtain ⟨m, hm, hvlan⟩ := htagged
      exact hnone m (mem_homes_iff.2 ⟨hm, fun _ => hvlan⟩)
    · exact hnone n (mem_homes_iff.2 ⟨hn, fun h => absurd h htagged⟩)
  exact ⟨_, List.head?_eq_some_head hne⟩

/-! ## Findings about a device -/

/-- What the check says about a device. -/
def flagged? (site : Site) (d : Device) : Option Finding :=
  (recommended? site).bind fun home => finding? site home d

theorem findings_eq_filterMap (site : Site) :
    findings site = site.devices.filterMap (flagged? site) := by
  rw [findings]
  split
  · next home hhome =>
    have hflagged : flagged? site = finding? site home := by
      funext d
      rw [flagged?, recommended?, hhome, Option.bind_some]
    rw [hflagged]
  · next hnone =>
    refine (List.filterMap_eq_nil_iff.2 fun d _ => ?_).symm
    rw [flagged?, recommended?, hnone, Option.bind_none]

/-- A finding tells that a device should move to a network. -/
structure Recommends (f : Finding) (d : Device) (home : Network) : Prop where
  kind : f.kind = .infraNotOnMgmt
  device : f.details.entries = [("device_mac", d.mac)]
  network : f.recommendedNetwork = some home.name
  vlan : f.recommendedVlan = some home.vlan

theorem recommends_finding (site : Site) (home : Network) (d : Device) (ip : Net.Address) :
    Recommends (finding site home d ip) d home := by
  simp only [finding]
  cases site.networkOf? ip with
  | none => exact ⟨rfl, rfl, rfl, rfl⟩
  | some current => exact ⟨rfl, rfl, rfl, rfl⟩

/-- There is a finding about a switch, access point or bridge whose address is in none of the
networks it belongs on. -/
theorem flagged_eq_some_iff :
    flagged? site d = some f ↔ ∃ home ip, recommended? site = some home ∧
      d.kind.isManaged = true ∧ d.ip = some ip ∧
      (∀ n ∈ homes site, n.contains ip = false) ∧ finding site home d ip = f := by
  simp only [flagged?, finding?, Option.bind_eq_some_iff, Option.ite_none_right_eq_some,
    Option.ite_none_left_eq_some, Bool.not_eq_true, List.any_eq_false, Option.some.injEq]
  constructor
  · rintro ⟨home, hhome, hmanaged, ip, hip, helsewhere, rfl⟩
    exact ⟨home, ip, hhome, hmanaged, hip, helsewhere, rfl⟩
  · rintro ⟨home, ip, hhome, hmanaged, hip, helsewhere, rfl⟩
    exact ⟨home, hhome, hmanaged, ip, hip, helsewhere, rfl⟩

/-- Nothing is said about such a device exactly if it is on one of these networks. -/
theorem flagged_eq_none_iff (hhome : recommended? site = some home)
    (hmanaged : d.kind.isManaged = true) (hip : d.ip = some ip) :
    flagged? site d = none ↔ ∃ n ∈ homes site, n.contains ip = true := by
  rw [flagged?, hhome, Option.bind_some, finding?, if_pos hmanaged, hip, Option.bind_some]
  split
  · next hany => exact iff_of_true rfl (List.any_eq_true.1 hany)
  · next hany => exact iff_of_false (Option.some_ne_none _) fun h => hany (List.any_eq_true.2 h)

/-! ## Moving a device -/

/-- What is said about one device does not depend on the devices of the site. -/
theorem flagged_withDevices (site : Site) (devices : List Device) :
    flagged? (site.withDevices devices) = flagged? site := rfl

/-- Nothing is said about a device in the network that is recommended. -/
theorem flagged_movedTo (hhome : recommended? site = some home) {a : Net.Address}
    (ha : home.contains a = true) : flagged? site (d.movedTo a) = none := by
  cases hmanaged : d.kind.isManaged with
  | true =>
      have hmem : home ∈ homes site := List.mem_of_mem_head? hhome
      exact (flagged_eq_none_iff (d := d.movedTo a) hhome hmanaged rfl).2 ⟨home, hmem, ha⟩
  | false =>
      rw [Option.eq_none_iff_forall_ne_some]
      intro f hf
      obtain ⟨_, _, _, hmanaged', _⟩ := flagged_eq_some_iff.1 hf
      rw [Device.movedTo, hmanaged] at hmanaged'
      cases hmanaged'

/-- **Following a recommendation clears the finding.**  At every site, what the check says is what
it says about each device, in their order.  Let it say something about a device at some place.  It then
recommends a management network with a subnet.  This does not have the address of the device, it is
not the native one if another management network with a subnet is tagged, and it has addresses.  If
the device is moved to any of them, then all findings but this one are left, as they were and in
their order.  And if there is a management network with a subnet and nothing is said about a switch,
access point or bridge with an address, then it is on a management network. -/
theorem moved_device_cleared (site : Site) :
    findings site = site.devices.filterMap (flagged? site) ∧
      (∀ front d back f, site.devices = front ++ d :: back → flagged? site d = some f →
        ∃ home, recommended? site = some home ∧ IsEligible site home ∧ Recommends f d home ∧
          (∃ ip, d.ip = some ip ∧ home.contains ip = false) ∧
          ((∃ n, IsEligible site n ∧ n.vlan ≠ 1) → home.vlan ≠ 1) ∧
          (∃ a, home.contains a = true) ∧
          findings site =
            front.filterMap (flagged? site) ++ f :: back.filterMap (flagged? site) ∧
          ∀ a, home.contains a = true →
            findings (site.withDevices (front ++ d.movedTo a :: back)) =
              front.filterMap (flagged? site) ++ back.filterMap (flagged? site)) ∧
      ∀ d ∈ site.devices, d.kind = .switch ∨ d.kind = .accessPoint ∨ d.kind = .bridge →
        ∀ ip, d.ip = some ip → (∃ n, IsEligible site n) → flagged? site d = none →
          ∃ n, IsEligible site n ∧ n.contains ip = true := by
  refine ⟨findings_eq_filterMap site, fun front d back f hdevices hflagged => ?_, ?_⟩
  · obtain ⟨home, ip, hhome, _, hip, helsewhere, hfinding⟩ := flagged_eq_some_iff.1 hflagged
    have hmem : home ∈ homes site := List.mem_of_mem_head? hhome
    obtain ⟨heligible, htagged⟩ := mem_homes_iff.1 hmem
    have haddress : ∃ a, home.contains a = true := by
      obtain ⟨subnet, hsubnet⟩ := Option.isSome_iff_exists.1 heligible.subnet
      exact ⟨subnet.network, Network.contains_iff.2 ⟨subnet, hsubnet, subnet.contains_first⟩⟩
    refine ⟨home, hhome, heligible, hfinding ▸ recommends_finding site home d ip,
      ⟨ip, hip, helsewhere home hmem⟩, htagged, haddress, ?_, fun a ha => ?_⟩
    · rw [findings_eq_filterMap, hdevices, List.filterMap_append,
        List.filterMap_cons_some hflagged]
    · rw [findings_eq_filterMap, flagged_withDevices]
      change (front ++ d.movedTo a :: back).filterMap (flagged? site) = _
      rw [List.filterMap_append, List.filterMap_cons_none (flagged_movedTo hhome ha)]
  · rintro d _ hkind ip hip ⟨n, hn⟩ hsilent
    have hmanaged : d.kind.isManaged = true := by
      rcases hkind with h | h | h
      all_goals
        rw [h]
        rfl
    obtain ⟨home, hhome⟩ := exists_recommended hn
    obtain ⟨m, hm, hcontains⟩ := (flagged_eq_none_iff hhome hmanaged hip).1 hsilent
    exact ⟨m, (mem_homes_iff.1 hm).1, hcontains⟩

end Audit.Placement

/-- The native network, which was made for management too. -/
def nativeNetwork : Network :=
  { switches with id := "default", name := "Default", vlan := 1
                  subnet := some (.ofBits .v4 0xC0A80100 24) }

/-- A switch on the native network. -/
def coreSwitch : Device :=
  { id := "core", mac := "02:00:00:00:00:21", name := "Core", model := none, kind := .switch
    ip := some (.ofBits .v4 0xC0A80102) }

/-- An access point in no network that is known. -/
def atticPoint : Device :=
  { coreSwitch with id := "attic", mac := "02:00:00:00:00:22", name := "Attic"
                    kind := .accessPoint, ip := some (.ofBits .v4 0x0A000A14) }

/-- An access point that is where it belongs. -/
def lobbyPoint : Device := { atticPoint with id := "lobby", name := "Lobby" }.movedTo
  (.ofBits .v4 0x0A630005)

namespace Audit.Placement

/-- The switch is told to leave the native network for the tagged one.  When it is there, what is
said about the access point in the attic is left. -/
theorem moved_device_cleared_coreSwitch :
    let site := (Site.ofRules [] [nativeNetwork, switches]).withDevices
      [atticPoint, coreSwitch, lobbyPoint]
    let elsewhere := finding site switches atticPoint (.ofBits .v4 0x0A000A14)
    let onNative := finding site switches coreSwitch (.ofBits .v4 0xC0A80102)
    flagged? site coreSwitch = some onNative ∧ findings site = [elsewhere, onNative] ∧
      switches.contains (.ofBits .v4 0x0A630002) = true ∧
      findings (site.withDevices
        [atticPoint, coreSwitch.movedTo (.ofBits .v4 0x0A630002), lobbyPoint]) = [elsewhere] ∧
      ∃ n, IsEligible site n ∧ n.contains (.ofBits .v4 0x0A630005) = true := by
  intro site elsewhere onNative
  have hrecommended : recommended? site = some switches := by decide
  have hflagged : flagged? site coreSwitch = some onNative :=
    flagged_eq_some_iff.2 ⟨switches, _, hrecommended, rfl, rfl, by decide, rfl⟩
  have helsewhere : flagged? site atticPoint = some elsewhere :=
    flagged_eq_some_iff.2 ⟨switches, _, hrecommended, rfl, rfl, by decide, rfl⟩
  have hsilent : flagged? site lobbyPoint = none := by decide
  have hattic : [atticPoint].filterMap (flagged? site) = [elsewhere] :=
    List.filterMap_cons_some helsewhere
  have hlobby : [lobbyPoint].filterMap (flagged? site) = [] := List.filterMap_cons_none hsilent
  obtain ⟨_, hmoved, hplaced⟩ := moved_device_cleared site
  obtain ⟨home, hhome, heligible, _, _, _, _, hbefore, hafter⟩ :=
    hmoved [atticPoint] coreSwitch [lobbyPoint] onNative rfl hflagged
  obtain rfl : home = switches := Option.some.inj (hhome.symm.trans hrecommended)
  rw [hattic, hlobby] at hbefore hafter
  have hinside : switches.contains (.ofBits .v4 0x0A630002) = true := by decide
  exact ⟨hflagged, hbefore, hinside, hafter _ hinside,
    hplaced lobbyPoint (by decide) (Or.inr (Or.inl rfl)) _ rfl ⟨switches, heligible⟩ hsilent⟩

end Audit.Placement

end SiteAudit

import SiteAudit.Firewall.Flow
import SiteAudit.Proofs.Comparisons
import SiteAudit.Proofs.TrimmedTexts

/-!
# Containment of rules

One rule contains another if every flow that the inner one matches is matched
by the outer one.  The comparison of rules claims this from the texts of the
two rules and the subnets of the site; here it is checked against the flows
themselves, dimension by dimension: protocol, state, zone, port and target.

A flow is only meaningful at a site if it agrees with the subnets there: a
party is in a network exactly if its address lies in the subnet.  That is
what connects the two kinds of targets that are compared across kinds,
networks and addresses.

## Main results

* `ProtocolMatch.admits_of_contains`, `Endpoint.includesPort_of_portsContain`,
  `Target.appliesTo_of_targetContains` — the dimensions.
* `Endpoint.appliesTo_of_endpointContains` — a whole side.
* `ruleContains_sound` — a contained rule matches no flow of its own.
-/

namespace SiteAudit

/-- The network and the address of a party agree about every subnet of the site. -/
def Party.IsPlacedIn (p : Party) (site : Site) : Prop :=
  ∀ n ∈ site.networks, ∀ subnet ∈ n.subnet,
    p.network = some n.id ↔ subnet.contains p.address = true

instance (p : Party) (site : Site) : Decidable (p.IsPlacedIn site) :=
  inferInstanceAs (Decidable (∀ n ∈ site.networks, ∀ subnet ∈ n.subnet, _ ↔ _))

/-- Both parties of a flow agree with the subnets of the site. -/
def Flow.IsPlacedIn (f : Flow) (site : Site) : Prop :=
  f.source.IsPlacedIn site ∧ f.destination.IsPlacedIn site

instance (f : Flow) (site : Site) : Decidable (f.IsPlacedIn site) :=
  inferInstanceAs (Decidable (_ ∧ _))

/-- The subnet of a party's network has the party's address.  Where subnets overlap, the address
alone does not tell the network. -/
def Party.IsAddressedIn (p : Party) (site : Site) : Prop :=
  ∀ n ∈ site.networks, ∀ subnet ∈ n.subnet,
    p.network = some n.id → subnet.contains p.address = true

instance (p : Party) (site : Site) : Decidable (p.IsAddressedIn site) :=
  inferInstanceAs (Decidable (∀ n ∈ site.networks, ∀ subnet ∈ n.subnet, _ → _))

theorem Party.IsPlacedIn.isAddressedIn {p : Party} {site : Site} (h : p.IsPlacedIn site) :
    p.IsAddressedIn site :=
  fun n hn subnet hsubnet => (h n hn subnet hsubnet).1

/-- So have the subnets of both parties of a flow. -/
def Flow.IsAddressedIn (f : Flow) (site : Site) : Prop :=
  f.source.IsAddressedIn site ∧ f.destination.IsAddressedIn site

instance (f : Flow) (site : Site) : Decidable (f.IsAddressedIn site) :=
  inferInstanceAs (Decidable (_ ∧ _))

theorem Flow.IsPlacedIn.isAddressedIn {f : Flow} {site : Site} (h : f.IsPlacedIn site) :
    f.IsAddressedIn site :=
  ⟨h.1.isAddressedIn, h.2.isAddressedIn⟩

/-- Whether the inner target selects by addresses what the outer one selects by networks, so that
containment tells the network of a party from its address. -/
def Target.infersNetwork : Target → Target → Bool
  | .network _ false, .ip _ false => true
  | _, _ => false

/-- Whether that is so on one of the two sides. -/
def Rule.infersNetwork (outer inner : Rule) : Bool :=
  outer.source.target.infersNetwork inner.source.target ||
    outer.destination.target.infersNetwork inner.destination.target

/-! ## Protocols -/

/-- A protocol covers itself; beyond that, one covers everything and one covers two others. -/
theorem Protocol.covers_eq_true_iff {p q : Protocol} :
    p.covers q = true ↔ p = q ∨ p = .all ∨ (p = .tcpUdp ∧ (q = .tcp ∨ q = .udp)) := by
  cases p <;> simp [covers]
  constructor
  · rintro ((rfl | rfl) | rfl) <;> simp
  · rintro (rfl | rfl | rfl) <;> simp

theorem Protocol.covers_of_covers {p q t : Protocol} (hpq : p.covers q = true)
    (hqt : q.covers t = true) : p.covers t = true := by
  rw [covers_eq_true_iff] at *
  rcases hpq with rfl | rfl | ⟨rfl, rfl | rfl⟩
  · exact hqt
  · exact Or.inr (Or.inl rfl)
  · have ht : .tcp = t := by simpa using hqt
    exact Or.inr (Or.inr ⟨rfl, Or.inl ht.symm⟩)
  · have ht : .udp = t := by simpa using hqt
    exact Or.inr (Or.inr ⟨rfl, Or.inr ht.symm⟩)

/-- Protocols that cover a common one are nested. -/
theorem Protocol.covers_or_covers {p q t : Protocol} (hp : p.covers t = true)
    (hq : q.covers t = true) : p.covers q = true ∨ q.covers p = true := by
  rcases covers_eq_true_iff.1 hp with rfl | rfl | ⟨rfl, ht⟩
  · exact Or.inr hq
  · exact Or.inl rfl
  · rcases covers_eq_true_iff.1 hq with rfl | rfl | ⟨rfl, _⟩
    · exact Or.inl hp
    · exact Or.inr rfl
    · exact Or.inl rfl

/-- No protocol is left out exactly if all are admitted. -/
theorem ProtocolMatch.isEverything_iff {m : ProtocolMatch} :
    m.isEverything = true ↔ ∀ t, m.admits t = true := by
  obtain ⟨p, inverted⟩ := m
  constructor
  · intro h t
    simp only [isEverything, Bool.and_eq_true, beq_iff_eq, Bool.not_eq_true'] at h
    simp [admits, h.1, h.2, Protocol.covers]
  · intro h
    -- An inverted selector leaves out its own protocol.
    have hplain : inverted = false := by simpa [admits, Protocol.covers_self] using h p
    subst hplain
    have hall : p.covers .all = true := by simpa [admits] using h .all
    rcases Protocol.covers_eq_true_iff.1 hall with rfl | rfl | ⟨_, heq | heq⟩
    · rfl
    · rfl
    · cases heq
    · cases heq

theorem ProtocolMatch.admits_of_contains {outer inner : ProtocolMatch}
    (h : outer.contains inner = true) {t : Protocol} (ht : inner.admits t = true) :
    outer.admits t = true := by
  obtain ⟨p, outerInverted⟩ := outer
  obtain ⟨q, innerInverted⟩ := inner
  cases outerInverted <;> cases innerInverted <;>
    simp only [contains, admits, Bool.bne_false, Bool.bne_true, Bool.not_eq_true'] at *
  · exact Protocol.covers_of_covers h ht
  · have hall : p = .all := by simpa using h
    simp [hall, Protocol.covers]
  · rw [Bool.or_eq_false_iff] at h
    cases hp : p.covers t with
    | false => rfl
    | true =>
        rcases Protocol.covers_or_covers hp ht with hpq | hqp
        · simp [hpq] at h
        · simp [hqp] at h
  · cases hp : p.covers t with
    | false => rfl
    | true =>
        rw [Protocol.covers_of_covers h hp] at ht
        exact ht

/-! ## Ports and zones -/

theorem Endpoint.includesPort_of_portsContain {outer inner : Endpoint}
    (h : Scope.portsContain outer inner = true) {port : String}
    (hport : inner.includesPort port = true) : outer.includesPort port = true := by
  rw [Scope.portsContain] at h
  rw [includesPort] at hport ⊢
  cases houter : outer.port with
  | none => rfl
  | some o =>
      cases hinner : inner.port with
      | none => simp [houter, hinner] at h
      | some i =>
          rw [houter, hinner] at h
          rw [hinner] at hport
          exact Scope.byPorts_correct.has_of_contains h hport

theorem Endpoint.zone_of_zonesContain {outer inner : Endpoint}
    (h : Scope.zonesContain outer inner = true) {zone : Option String}
    (hzone : inner.zone.all (zone == some ·) = true) :
    outer.zone.all (zone == some ·) = true := by
  rw [Scope.zonesContain] at h
  cases houter : outer.zone with
  | none => rfl
  | some z =>
      have hinner : inner.zone = some z := by simpa [houter] using h
      simpa [hinner] using hzone

/-! ## Targets -/

section Targets

variable {site : Site} {p : Party} {ids entries : List String}

/-- A subnet of one of the networks, and the id through which it was found. -/
theorem exists_network_of_mem_subnets {subnet : Net.Block}
    (h : some subnet ∈ Scope.subnets site ids) :
    ∃ n ∈ site.networks, n.id ∈ ids ∧ n.subnet = some subnet := by
  obtain ⟨id, hid, hsubnet⟩ := List.mem_map.1 h
  obtain ⟨n, hn, hsome⟩ := Option.bind_eq_some_iff.1 hsubnet
  have hsame : n.id = id := by simpa using List.find?_some hn
  exact ⟨n, List.mem_of_find?_eq_some hn, hsame ▸ hid, hsome⟩

/-- Entries that cover the subnets of all networks of a list have the address of every party that
is in one of them. -/
theorem anyContain_of_addressesContainNetworks (hp : p.IsAddressedIn site)
    (h : Scope.addressesContainNetworks site entries ids = true)
    (hnetwork : p.network.any ids.contains = true) :
    Net.Entries.anyContain entries p.address = true := by
  obtain ⟨id, hid, hmem⟩ := (Option.any_eq_true _ _).1 hnetwork
  have hsubnet : (site.network? id).bind Network.subnet ∈ Scope.subnets site ids :=
    List.mem_map_of_mem (List.contains_iff_mem.1 hmem)
  obtain ⟨subnet, hsome, hcover⟩ :=
    (Option.any_eq_true _ _).1 (List.all_eq_true.1 h _ hsubnet)
  obtain ⟨n, hfind, hn⟩ := Option.bind_eq_some_iff.1 hsome
  have hsame : n.id = id := by simpa using List.find?_some hfind
  have hin : subnet.contains p.address = true :=
    hp n (List.mem_of_find?_eq_some hfind) subnet hn (by rw [hid, hsame])
  exact Net.Entries.anyContain_of_anyCover hcover hin

/-- An address in one of the entries is in the subnet of one of the networks that contain them. -/
theorem exists_network_of_networksContainAddresses
    (h : Scope.networksContainAddresses site ids entries = true) {a : Net.Address}
    (ha : Net.Entries.anyContain entries a = true) :
    ∃ n ∈ site.networks, n.id ∈ ids ∧
      ∃ subnet, n.subnet = some subnet ∧ subnet.contains a = true := by
  obtain ⟨b, hb, hcontains⟩ := Net.Entries.anyContain_iff.1 ha
  obtain ⟨entry, hentry, hread⟩ := List.mem_filterMap.1 hb
  have hall := List.all_eq_true.1 h entry hentry
  rw [hread] at hall
  obtain ⟨found, hfound, hany⟩ := List.any_eq_true.1 hall
  obtain ⟨subnet, rfl, hcovers⟩ := (Option.any_eq_true _ _).1 hany
  obtain ⟨n, hn, hid, hsubnet⟩ := exists_network_of_mem_subnets hfound
  exact ⟨n, hn, hid, subnet, hsubnet, Net.Block.contains_of_covers hcovers hcontains⟩

/-- A party whose address is in one of the entries is in one of the networks whose subnets cover
all entries. -/
theorem network_of_networksContainAddresses (hp : p.IsPlacedIn site)
    (h : Scope.networksContainAddresses site ids entries = true)
    (haddress : Net.Entries.anyContain entries p.address = true) :
    p.network.any ids.contains = true := by
  obtain ⟨n, hn, hid, subnet, hsubnet, hin⟩ := exists_network_of_networksContainAddresses h haddress
  have hnetwork : p.network = some n.id := (hp n hn subnet hsubnet).2 hin
  rw [hnetwork]
  exact List.contains_iff_mem.2 hid

/-- What the inner target selects, the outer one does. -/
theorem Target.appliesTo_of_targetContains (haddressed : p.IsAddressedIn site)
    {outer inner : Target} (hplaced : outer.infersNetwork inner = true → p.IsPlacedIn site)
    (htrim : inner.HasTrimmedDomains) (h : Scope.targetContains site outer inner = true)
    (happlies : inner.appliesTo p = true) : outer.appliesTo p = true := by
  -- One case for each pair of kinds that compare, in the order of the definition.
  unfold Scope.targetContains at h
  split at h
  case h_1 => rfl
  case h_2 => simp at h
  case h_3 => exact Scope.byElements_correct.has_of_contains h happlies
  case h_4 =>
      rw [Bool.and_eq_true] at h
      exact Scope.byAddresses_correct.has_of_contains h.2 happlies
  case h_5 =>
      simp only [appliesTo, Bool.bne_false] at happlies ⊢
      exact anyContain_of_addressesContainNetworks haddressed h happlies
  case h_6 =>
      simp only [appliesTo, Bool.bne_false] at happlies ⊢
      exact network_of_networksContainAddresses (hplaced rfl) h happlies
  case h_7 => exact Scope.hasMac_of_byMacs h happlies
  case h_8 => exact Scope.hasHost_of_byDomains htrim h happlies
  case h_9 => exact Scope.byElements_correct.contains_sound _ _ h (some p.app) happlies
  case h_10 => exact Scope.byElements_correct.contains_sound _ _ h (some p.category) happlies
  case h_11 => simp at h

end Targets

/-! ## Sides and rules -/

/-- Whom the inner side selects, the outer one does. -/
theorem Endpoint.appliesTo_of_endpointContains {site : Site} {p : Party}
    (haddressed : p.IsAddressedIn site) {outer inner : Endpoint}
    (hplaced : outer.target.infersNetwork inner.target = true → p.IsPlacedIn site)
    (htrim : inner.target.HasTrimmedDomains)
    (h : Scope.endpointContains site outer inner = true)
    (happlies : inner.appliesTo p = true) : outer.appliesTo p = true := by
  simp only [Scope.endpointContains, Bool.and_eq_true] at h
  simp only [appliesTo, Bool.and_eq_true] at happlies ⊢
  obtain ⟨⟨hzones, hports⟩, htargets⟩ := h
  obtain ⟨⟨hzone, hport⟩, htarget⟩ := happlies
  exact ⟨⟨zone_of_zonesContain hzones hzone, includesPort_of_portsContain hports hport⟩,
    Target.appliesTo_of_targetContains haddressed hplaced htrim htargets htarget⟩

/-- What the inner rule matches, the outer one does.  Subnets may overlap, unless networks are
inferred from addresses. -/
theorem Rule.appliesTo_of_contains_of_addressed {site : Site} {f : Flow}
    (haddressed : f.IsAddressedIn site) {outer inner : Rule}
    (hplaced : outer.infersNetwork inner = true → f.IsPlacedIn site)
    (htrim : inner.HasTrimmedDomains) (h : Scope.ruleContains site outer inner = true)
    (happlies : inner.appliesTo f = true) : outer.appliesTo f = true := by
  rw [infersNetwork, Bool.or_eq_true] at hplaced
  obtain ⟨hprotocol, hstates, hsource, hdestination⟩ := Scope.ruleContains_iff.1 h
  obtain ⟨hadmits, hstate, hfrom, hto⟩ := appliesTo_iff.1 happlies
  exact appliesTo_iff.2
    ⟨ProtocolMatch.admits_of_contains hprotocol hadmits, hstates f.state hstate,
      Endpoint.appliesTo_of_endpointContains haddressed.1
        (fun hinfers => (hplaced (Or.inl hinfers)).1) htrim.1 hsource hfrom,
      Endpoint.appliesTo_of_endpointContains haddressed.2
        (fun hinfers => (hplaced (Or.inr hinfers)).2) htrim.2 hdestination hto⟩

/-- What the inner rule matches, the outer one does. -/
theorem Rule.appliesTo_of_contains {site : Site} {f : Flow} (hf : f.IsPlacedIn site)
    {outer inner : Rule} (htrim : inner.HasTrimmedDomains)
    (h : Scope.ruleContains site outer inner = true) (happlies : inner.appliesTo f = true) :
    outer.appliesTo f = true :=
  appliesTo_of_contains_of_addressed hf.isAddressedIn (fun _ => hf) htrim h happlies

/-- **Containment is sound over traffic.**  At every site, whatever targets, inversions, ports,
zones, protocols and states the two rules have: a rule that is known to contain another one
matches every flow that the other one matches. -/
theorem ruleContains_sound (site : Site) {outer inner : Rule}
    (hread : inner.HasTrimmedDomains ∨ ∃ groups doc, inner ∈ Export.rules groups doc)
    (h : Scope.ruleContains site outer inner = true) {f : Flow} (hf : f.IsPlacedIn site)
    (happlies : inner.appliesTo f = true) : outer.appliesTo f = true := by
  have htrim : inner.HasTrimmedDomains := Export.hasTrimmedDomains_of_read hread
  exact Rule.appliesTo_of_contains hf htrim h happlies

/-- A network of cameras. -/
def cameras : Network :=
  { id := "cams", name := "Cameras", vlan := 30, purpose := .security, statedPurpose := none
    subnet := some (.ofBits .v4 0x0A1E0000 24), gateway := none, dhcp := true, dnsServers := []
    isolated := false, internet := true, zone := none, group := none, switchRouted := false }

/-- Lets private addresses send to the servers of a domain.  One entry cannot be read. -/
def allowUplink : Rule :=
  { id := "uplink", name := "Uplink", action := .allow, enabled := true, predefined := false
    index := 1, protocol := ⟨.tcpUdp, false⟩, stateType := .all, states := .empty
    source := ⟨.ip ["10.0.0.0/8", "office"] false, none, none, false⟩
    destination := ⟨.web ["example.com"], none, some "443,8000-8099", false⟩
    ruleset := none, hitCount := none }

/-- Keeps cameras from opening connections to a part of that domain. -/
def blockTelemetry : Rule :=
  { id := "telemetry", name := "Telemetry", action := .block, enabled := true, predefined := false
    index := 1, protocol := ⟨.tcp, false⟩, stateType := .custom, states := .ofList ["NEW"]
    source := ⟨.network ["cams"] false, none, none, false⟩
    destination := ⟨.web ["*.data.Example.com"], none, some "8080", false⟩
    ruleset := none, hitCount := none }

/-- A camera that opens a connection to a server of that part. -/
def cameraReport : Flow :=
  { protocol := .tcp, state := "NEW"
    source := ⟨none, "50000", .ofBits .v4 0x0A1E0005, some "cams", "02:00:00:00:00:05", "", 0, 0⟩
    destination := ⟨none, "8080", .ofBits .v4 0xCB007107, none, "", "eu.data.example.com", 0, 0⟩ }

/-- The rule about networks is contained in the one about addresses, by the subnet of the
cameras; so their flow is matched by both. -/
theorem ruleContains_sound_cameras :
    Scope.ruleContains (.ofRules [] [cameras]) allowUplink blockTelemetry = true ∧
      cameraReport.IsPlacedIn (.ofRules [] [cameras]) ∧
      blockTelemetry.appliesTo cameraReport = true ∧
      allowUplink.appliesTo cameraReport = true :=
  have hcontains :
      Scope.ruleContains (.ofRules [] [cameras]) allowUplink blockTelemetry = true := by decide
  have hplaced : cameraReport.IsPlacedIn (.ofRules [] [cameras]) := by decide
  have happlies : blockTelemetry.appliesTo cameraReport = true := by decide
  have htrim : blockTelemetry.HasTrimmedDomains := by decide
  ⟨hcontains, hplaced, happlies,
    ruleContains_sound _ (Or.inl htrim) hcontains hplaced happlies⟩

end SiteAudit

import Mathlib.Data.List.Nodup
import SiteAudit.Proofs.Containment

/-!
# Rules with traffic in common

Two rules overlap if some flow is matched by both.  The checks go by this where
the order of rules matters, and so an overlap that is missed is a pair of rules
that nobody looks at.  What can be expected of the comparison is that it does not
depend on which of the two rules comes first, and that it never denies what a flow
proves.

The second part has a limit.  Targets of different kinds, a MAC address and a web
domain for example, are taken to have nothing in common, although a flow may have
both.  Between targets that do compare no flow is missed, dimension by dimension.
An inverted list overlaps another list unless it is known to contain it, and so the
completeness of this part is the soundness of containment.

Networks and addresses meet in the subnets of a site.  There the network of a party
has to be one that the site knows, by an id of its own and with a subnet.

## Main results

* `Scope.targetOverlaps_comm`, `Scope.rulesOverlap_comm` — the order of the two does
  not matter.
* `ProtocolMatch.overlaps_of_admits`, `Endpoint.portsOverlap_of_includesPort`,
  `Target.overlaps_of_appliesTo` — what is selected by both, in each dimension.
* `Endpoint.overlaps_of_appliesTo` — a whole side.
* `rulesOverlap_eq_false` — where nothing is compared, nothing is found.
* `overlap_finds_common_traffic` — all of it together.
-/

namespace SiteAudit

/-! ## Symmetry -/

theorem ProtocolMatch.overlaps_comm (a b : ProtocolMatch) : a.overlaps b = b.overlaps a := by
  obtain ⟨p, pi⟩ := a
  obtain ⟨q, qi⟩ := b
  cases pi <;> cases qi
  · exact Bool.or_comm ..
  · rfl
  · rfl
  · exact Bool.and_comm ..

namespace Scope

variable {α : Type}

/-- Whether two plain lists overlap does not depend on which of them comes first. -/
def Comparison.IsSymmetric (c : Comparison α) : Prop := ∀ a b, c.overlaps a b = c.overlaps b a

theorem Comparison.IsSymmetric.invertedOverlaps_comm {c : Comparison α} (hc : c.IsSymmetric)
    (a b : Selection α) : c.invertedOverlaps a b = c.invertedOverlaps b a := by
  obtain ⟨a, ai⟩ := a
  obtain ⟨b, bi⟩ := b
  cases ai <;> cases bi
  · exact hc a b
  · rfl
  · rfl
  · rfl

/-- Lists that overlap in one element each overlap the other way round. -/
theorem any_any_comm {p : α → α → Bool} (hp : ∀ x y, p x y = p y x) (a b : List α) :
    (a.any fun x => b.any (p x)) = b.any fun y => a.any (p y) := by
  rw [Bool.eq_iff_iff]
  simp only [List.any_eq_true]
  constructor
  · rintro ⟨x, hx, y, hy, h⟩
    exact ⟨y, hy, x, hx, by rwa [hp]⟩
  · rintro ⟨y, hy, x, hx, h⟩
    exact ⟨x, hx, y, hy, by rwa [hp]⟩

theorem byElements_symmetric [BEq α] [LawfulBEq α] : (byElements (α := α)).IsSymmetric := by
  intro a b
  rw [Bool.eq_iff_iff]
  simp [byElements, and_comm]

theorem byPorts_symmetric : byPorts.IsSymmetric := by
  intro a b
  change PortSpec.overlap a b = PortSpec.overlap b a
  rw [PortSpec.overlap, PortSpec.overlap]
  cases PortSpec.ranges? a with
  | none => cases PortSpec.ranges? b <;> rfl
  | some xs =>
      cases PortSpec.ranges? b with
      | none => rfl
      | some ys => exact any_any_comm (fun _ _ => Bool.and_comm ..) xs ys

theorem byAddresses_symmetric : byAddresses.IsSymmetric := by
  intro a b
  exact any_any_comm (fun x y => Net.Block.overlaps_comm y x) (Net.Entries.blocks a)
    (Net.Entries.blocks b)

theorem byMacs_symmetric : byMacs.IsSymmetric :=
  any_any_comm Text.sameAsciiFold_comm

theorem byDomains_symmetric : byDomains.IsSymmetric :=
  any_any_comm fun _ _ => Bool.or_comm ..

theorem targetOverlaps_comm (site : Site) (a b : Target) :
    targetOverlaps site a b = targetOverlaps site b a := by
  cases a with
  | any => cases b <;> rfl
  | network x xi =>
      cases b with
      | network y yi => exact byElements_symmetric.invertedOverlaps_comm ⟨x, xi⟩ ⟨y, yi⟩
      | ip y yi => cases xi <;> cases yi <;> rfl
      | _ => rfl
  | ip x xi =>
      cases b with
      | network y yi => cases xi <;> cases yi <;> rfl
      | ip y yi => exact byAddresses_symmetric.invertedOverlaps_comm ⟨x, xi⟩ ⟨y, yi⟩
      | _ => rfl
  | client x =>
      cases b with
      | client y => exact byMacs_symmetric x y
      | _ => rfl
  | web x =>
      cases b with
      | web y => exact byDomains_symmetric x y
      | _ => rfl
  | app x =>
      cases b with
      | app y => exact byElements_symmetric x y
      | _ => rfl
  | appCategory x =>
      cases b with
      | appCategory y => exact byElements_symmetric x y
      | _ => rfl
  | unsupported name => cases b <;> rfl

theorem zonesOverlap_comm (a b : Endpoint) : zonesOverlap a b = zonesOverlap b a := by
  rw [zonesOverlap, zonesOverlap]
  cases a.zone with
  | none => cases b.zone <;> rfl
  | some x =>
      cases b.zone with
      | none => rfl
      | some y => exact Bool.beq_comm

theorem portsOverlap_comm (a b : Endpoint) : portsOverlap a b = portsOverlap b a := by
  rw [portsOverlap, portsOverlap]
  cases a.port with
  | none => cases b.port <;> rfl
  | some x =>
      cases b.port with
      | none => rfl
      | some y => exact byPorts_symmetric.invertedOverlaps_comm _ _

theorem endpointsOverlap_comm (site : Site) (a b : Endpoint) :
    endpointsOverlap site a b = endpointsOverlap site b a := by
  rw [endpointsOverlap, endpointsOverlap, zonesOverlap_comm a, portsOverlap_comm a,
    targetOverlaps_comm site a.target]

theorem rulesOverlap_comm (site : Site) (a b : Rule) :
    rulesOverlap site a b = rulesOverlap site b a := by
  rw [rulesOverlap, rulesOverlap, ProtocolMatch.overlaps_comm a.protocol,
    byElements_symmetric a.stateNames, endpointsOverlap_comm site a.source,
    endpointsOverlap_comm site a.destination]

end Scope

/-! ## Protocols, ports and zones -/

/-- Selectors that both admit a protocol overlap. -/
theorem ProtocolMatch.overlaps_of_admits {a b : ProtocolMatch} {t : Protocol}
    (ha : a.admits t = true) (hb : b.admits t = true) : a.overlaps b = true := by
  obtain ⟨p, pi⟩ := a
  obtain ⟨q, qi⟩ := b
  have hnotAll : ∀ r : Protocol, r.covers t = false → (r != .all) = true := by
    rintro r hr
    rw [bne_iff_ne]
    rintro rfl
    cases hr
  cases pi <;> cases qi <;>
    simp only [overlaps, admits, Bool.bne_false, Bool.bne_true, Bool.not_eq_true',
      Bool.or_eq_true, Bool.and_eq_true] at *
  · exact Protocol.covers_or_covers ha hb
  · exact Bool.eq_false_iff.2 fun h => Bool.eq_false_iff.1 hb (Protocol.covers_of_covers h ha)
  · exact Bool.eq_false_iff.2 fun h => Bool.eq_false_iff.1 ha (Protocol.covers_of_covers h hb)
  · exact ⟨hnotAll p ha, hnotAll q hb⟩

namespace Endpoint

variable {a b : Endpoint}

theorem portsOverlap_of_includesPort {port : String} (ha : a.includesPort port = true)
    (hb : b.includesPort port = true) : Scope.portsOverlap a b = true := by
  rw [includesPort] at ha hb
  rw [Scope.portsOverlap]
  cases haport : a.port with
  | none => rfl
  | some x =>
      cases hbport : b.port with
      | none => rfl
      | some y =>
          rw [haport] at ha
          rw [hbport] at hb
          exact Scope.byPorts_correct.overlaps_of_has ha hb

theorem zonesOverlap_of_zone {zone : Option String} (ha : a.zone.all (zone == some ·) = true)
    (hb : b.zone.all (zone == some ·) = true) : Scope.zonesOverlap a b = true := by
  rw [Scope.zonesOverlap]
  cases hazone : a.zone with
  | none => rfl
  | some x =>
      cases hbzone : b.zone with
      | none => rfl
      | some y =>
          have hx : zone = some x := by simpa [hazone] using ha
          have hy : zone = some y := by simpa [hbzone] using hb
          have hxy : x = y := Option.some.inj (hx.symm.trans hy)
          simp [hxy]

end Endpoint

/-! ## Networks that a site knows -/

/-- The network of a party, if it is in one, is a network of the site and has a subnet. -/
def Party.IsKnownTo (p : Party) (site : Site) : Prop :=
  ∀ id ∈ p.network, ∃ n ∈ site.networks, n.id = id ∧ n.subnet.isSome = true

instance (p : Party) (site : Site) : Decidable (p.IsKnownTo site) :=
  inferInstanceAs (Decidable (∀ id ∈ p.network, ∃ n ∈ site.networks, _ ∧ _))

/-- The networks of both parties of a flow, if they are in any, are networks of the site and have
subnets. -/
def Flow.IsKnownTo (f : Flow) (site : Site) : Prop :=
  f.source.IsKnownTo site ∧ f.destination.IsKnownTo site

instance (f : Flow) (site : Site) : Decidable (f.IsKnownTo site) :=
  inferInstanceAs (Decidable (_ ∧ _))

variable {site : Site} {p : Party}

/-- Where ids are distinct, a network is found by its id. -/
theorem Site.network_eq_some (hids : (site.networks.map Network.id).Nodup) {n : Network}
    (hn : n ∈ site.networks) : site.network? n.id = some n := by
  obtain ⟨m, hm⟩ : ∃ m, site.network? n.id = some m := by
    rw [← Option.isSome_iff_exists, network?, List.find?_isSome]
    exact ⟨n, hn, beq_self_eq_true n.id⟩
  have hid : m.id = n.id := by simpa using List.find?_some hm
  rw [hm, List.inj_on_of_nodup_map hids (List.mem_of_find?_eq_some hm) hn hid]

/-- A party that is in one of the networks and has an address in one of the entries is in a subnet
where both meet. -/
theorem networksMeetAddresses_of_party (hids : (site.networks.map Network.id).Nodup)
    (haddressed : p.IsAddressedIn site) (hknown : p.IsKnownTo site) {ids entries : List String}
    (hnetwork : p.network.any ids.contains = true)
    (haddress : Net.Entries.anyContain entries p.address = true) :
    Scope.networksMeetAddresses site ids entries = true := by
  obtain ⟨id, hid, hmem⟩ := (Option.any_eq_true _ _).1 hnetwork
  obtain ⟨n, hn, rfl, hsome⟩ := hknown id hid
  obtain ⟨subnet, hsubnet⟩ := Option.isSome_iff_exists.1 hsome
  have hin : subnet.contains p.address = true := haddressed n hn subnet hsubnet hid
  have hmeets : Net.Entries.anyOverlap entries subnet = true :=
    Net.Entries.anyOverlap_of_anyContain haddress hin
  have hfound : (site.network? n.id).bind Network.subnet = some subnet := by
    rw [Site.network_eq_some hids hn]
    exact hsubnet
  exact List.any_eq_true.2
    ⟨some subnet, List.mem_map.2 ⟨n.id, List.contains_iff_mem.1 hmem, hfound⟩, hmeets⟩

/-! ## Targets -/

namespace Target

/-- Whether a target is about places: everything, networks or addresses. -/
def isPlace : Target → Bool
  | .any | .network .. | .ip .. => true
  | .client _ | .web _ | .app _ | .appCategory _ | .unsupported _ => false

/-- Whether two targets are of one kind. -/
def sameKind : Target → Target → Bool
  | .any, .any | .network .., .network .. | .ip .., .ip .. | .client _, .client _
  | .web _, .web _ | .app _, .app _ | .appCategory _, .appCategory _
  | .unsupported _, .unsupported _ => true
  | _, _ => false

/-- Whether two targets compare: one selects everything, both are about places, or both are of one
kind. -/
def comparable : Target → Target → Bool
  | .any, _ | _, .any => true
  | a, b => a.isPlace && b.isPlace || a.sameKind b

variable {a b : Target}

/-- Targets that do not compare are taken to have nothing in common. -/
theorem targetOverlaps_eq_false (site : Site) (h : a.comparable b = false) :
    Scope.targetOverlaps site a b = false := by
  cases a with
  | any => cases h
  | network x xi =>
      cases b with
      | any | network | ip => cases h
      | client | web | app | appCategory | unsupported => rfl
  | ip x xi =>
      cases b with
      | any | network | ip => cases h
      | client | web | app | appCategory | unsupported => rfl
  | client x =>
      cases b with
      | any | client => cases h
      | network | ip | web | app | appCategory | unsupported => rfl
  | web x =>
      cases b with
      | any | web => cases h
      | network | ip | client | app | appCategory | unsupported => rfl
  | app x =>
      cases b with
      | any | app => cases h
      | network | ip | client | web | appCategory | unsupported => rfl
  | appCategory x =>
      cases b with
      | any | appCategory => cases h
      | network | ip | client | web | app | unsupported => rfl
  | unsupported name => cases b <;> rfl

/-- Networks and addresses that select a party in common overlap: through a subnet, or because one
of the two is inverted. -/
theorem overlaps_of_network_ip (hids : (site.networks.map Network.id).Nodup)
    (haddressed : p.IsAddressedIn site) (hknown : p.IsKnownTo site) {ids entries : List String}
    {idsInverted entriesInverted : Bool} (ha : (network ids idsInverted).appliesTo p = true)
    (hb : (ip entries entriesInverted).appliesTo p = true) :
    Scope.targetOverlaps site (network ids idsInverted) (ip entries entriesInverted) = true := by
  cases idsInverted with
  | true => cases entriesInverted <;> rfl
  | false =>
      cases entriesInverted with
      | true => rfl
      | false =>
          simp only [appliesTo, Bool.bne_false] at ha hb
          exact networksMeetAddresses_of_party hids haddressed hknown ha hb

/-- Targets that compare and select a party in common overlap. -/
theorem overlaps_of_appliesTo (hids : (site.networks.map Network.id).Nodup)
    (haddressed : p.IsAddressedIn site) (hknown : p.IsKnownTo site)
    (hatrim : a.HasTrimmedDomains) (hbtrim : b.HasTrimmedDomains)
    (hcomparable : a.comparable b = true) (ha : a.appliesTo p = true) (hb : b.appliesTo p = true) :
    Scope.targetOverlaps site a b = true := by
  cases a with
  | any =>
      refine Scope.targetOverlaps_any.2 ?_
      rintro name rfl
      cases hb
  | network x xi =>
      cases b with
      | any => rfl
      | network y yi => exact Scope.byElements_correct.overlaps_of_has ha hb
      | ip y yi => exact overlaps_of_network_ip hids haddressed hknown ha hb
      | client | web | app | appCategory | unsupported => cases hcomparable
  | ip x xi =>
      cases b with
      | any => rfl
      | network y yi =>
          rw [Scope.targetOverlaps_comm]
          exact overlaps_of_network_ip hids haddressed hknown hb ha
      | ip y yi => exact Scope.byAddresses_correct.overlaps_of_has ha hb
      | client | web | app | appCategory | unsupported => cases hcomparable
  | client x =>
      cases b with
      | any => rfl
      | client y => exact Scope.overlaps_of_mac ha hb
      | network | ip | web | app | appCategory | unsupported => cases hcomparable
  | web x =>
      cases b with
      | any => rfl
      | web y => exact Scope.overlaps_of_host hatrim hbtrim ha hb
      | network | ip | client | app | appCategory | unsupported => cases hcomparable
  | app x =>
      cases b with
      | any => rfl
      | app y => exact Scope.byElements_correct.overlaps_complete x y (some p.app) ha hb
      | network | ip | client | web | appCategory | unsupported => cases hcomparable
  | appCategory x =>
      cases b with
      | any => rfl
      | appCategory y =>
          exact Scope.byElements_correct.overlaps_complete x y (some p.category) ha hb
      | network | ip | client | web | app | unsupported => cases hcomparable
  | unsupported name => cases ha

end Target

/-! ## Sides and rules -/

/-- Sides with targets that compare and that select a party in common overlap, also where subnets
do. -/
theorem Endpoint.overlaps_of_addressed (hids : (site.networks.map Network.id).Nodup)
    (haddressed : p.IsAddressedIn site) (hknown : p.IsKnownTo site) {a b : Endpoint}
    (hatrim : a.target.HasTrimmedDomains) (hbtrim : b.target.HasTrimmedDomains)
    (hcomparable : a.target.comparable b.target = true) (ha : a.appliesTo p = true)
    (hb : b.appliesTo p = true) : Scope.endpointsOverlap site a b = true := by
  simp only [appliesTo, Bool.and_eq_true] at ha hb
  simp only [Scope.endpointsOverlap, Bool.and_eq_true]
  obtain ⟨⟨hazone, haport⟩, hatarget⟩ := ha
  obtain ⟨⟨hbzone, hbport⟩, hbtarget⟩ := hb
  exact ⟨⟨zonesOverlap_of_zone hazone hbzone, portsOverlap_of_includesPort haport hbport⟩,
    Target.overlaps_of_appliesTo hids haddressed hknown hatrim hbtrim hcomparable hatarget hbtarget⟩

/-- Sides with targets that compare and that select a party in common overlap. -/
theorem Endpoint.overlaps_of_appliesTo (hids : (site.networks.map Network.id).Nodup)
    (hplaced : p.IsPlacedIn site) (hknown : p.IsKnownTo site) {a b : Endpoint}
    (hatrim : a.target.HasTrimmedDomains) (hbtrim : b.target.HasTrimmedDomains)
    (hcomparable : a.target.comparable b.target = true) (ha : a.appliesTo p = true)
    (hb : b.appliesTo p = true) : Scope.endpointsOverlap site a b = true :=
  overlaps_of_addressed hids hplaced.isAddressedIn hknown hatrim hbtrim hcomparable ha hb

/-- Rules whose targets do not compare, on one side or the other, are taken not to overlap. -/
theorem rulesOverlap_eq_false (site : Site) {a b : Rule}
    (h : a.source.target.comparable b.source.target = false ∨
      a.destination.target.comparable b.destination.target = false) :
    Scope.rulesOverlap site a b = false := by
  rcases h with hsource | hdestination
  · simp [Scope.rulesOverlap, Scope.endpointsOverlap, Target.targetOverlaps_eq_false site hsource]
  · simp [Scope.rulesOverlap, Scope.endpointsOverlap,
      Target.targetOverlaps_eq_false site hdestination]

/-- **Overlap is symmetric and finds all common traffic.**  At every site, whichever of two rules
comes first, the answer is the same.  Let ids of networks be distinct, let both rules be as they
are read from a controller, and let their targets compare on both sides.  If some flow is matched
by both rules, the parties of which are in networks of the site with subnets or in none, then the
rules overlap.  Where targets do not compare, on one side or the other, the rules never do. -/
theorem overlap_finds_common_traffic (site : Site) (a b : Rule) :
    Scope.rulesOverlap site a b = Scope.rulesOverlap site b a ∧
      ((site.networks.map Network.id).Nodup →
        (a.HasTrimmedDomains ∨ ∃ groups doc, a ∈ Export.rules groups doc) →
        (b.HasTrimmedDomains ∨ ∃ groups doc, b ∈ Export.rules groups doc) →
        a.source.target.comparable b.source.target = true →
        a.destination.target.comparable b.destination.target = true →
        ∀ f : Flow, f.IsPlacedIn site → f.IsKnownTo site →
          a.appliesTo f = true → b.appliesTo f = true → Scope.rulesOverlap site a b = true) ∧
      (a.source.target.comparable b.source.target = false ∨
          a.destination.target.comparable b.destination.target = false →
        Scope.rulesOverlap site a b = false) := by
  refine ⟨Scope.rulesOverlap_comm site a b, ?_, rulesOverlap_eq_false site⟩
  intro hids haread hbread hsources hdestinations f hplaced hknown ha hb
  have hatrim : a.HasTrimmedDomains := Export.hasTrimmedDomains_of_read haread
  have hbtrim : b.HasTrimmedDomains := Export.hasTrimmedDomains_of_read hbread
  obtain ⟨haprotocol, hastate, hafrom, hato⟩ := Rule.appliesTo_iff.1 ha
  obtain ⟨hbprotocol, hbstate, hbfrom, hbto⟩ := Rule.appliesTo_iff.1 hb
  exact Scope.rulesOverlap_iff.2
    ⟨ProtocolMatch.overlaps_of_admits haprotocol hbprotocol, ⟨f.state, hastate, hbstate⟩,
      Endpoint.overlaps_of_appliesTo hids hplaced.1 hknown.1 hatrim.1 hbtrim.1 hsources hafrom
        hbfrom,
      Endpoint.overlaps_of_appliesTo hids hplaced.2 hknown.2 hatrim.2 hbtrim.2 hdestinations hato
        hbto⟩

/-- A camera's report is matched by the rule about addresses and by the one about networks, which
overlap therefore, whichever comes first. -/
theorem overlap_finds_common_traffic_cameras :
    let site := Site.ofRules [] [cameras]
    (site.networks.map Network.id).Nodup ∧
      allowUplink.HasTrimmedDomains ∧ blockTelemetry.HasTrimmedDomains ∧
      allowUplink.source.target.comparable blockTelemetry.source.target = true ∧
      allowUplink.destination.target.comparable blockTelemetry.destination.target = true ∧
      cameraReport.IsPlacedIn site ∧ cameraReport.IsKnownTo site ∧
      allowUplink.appliesTo cameraReport = true ∧ blockTelemetry.appliesTo cameraReport = true ∧
      Scope.rulesOverlap site allowUplink blockTelemetry = true ∧
      Scope.rulesOverlap site blockTelemetry allowUplink = true := by
  intro site
  have hids : (site.networks.map Network.id).Nodup := by decide
  have hatrim : allowUplink.HasTrimmedDomains := by decide
  have hbtrim : blockTelemetry.HasTrimmedDomains := by decide
  have hplaced : cameraReport.IsPlacedIn site := by decide
  have hknown : cameraReport.IsKnownTo site := by decide
  have ha : allowUplink.appliesTo cameraReport = true := by decide
  have hb : blockTelemetry.appliesTo cameraReport = true := by decide
  obtain ⟨hcomm, hfinds, _⟩ := overlap_finds_common_traffic site allowUplink blockTelemetry
  have hoverlap := hfinds hids (Or.inl hatrim) (Or.inl hbtrim) rfl rfl cameraReport hplaced hknown
    ha hb
  exact ⟨hids, hatrim, hbtrim, rfl, rfl, hplaced, hknown, ha, hb, hoverlap, hcomm ▸ hoverlap⟩

end SiteAudit

import Mathlib.Data.List.Pairwise
import SiteAudit.Proofs.AddressTrace
import SiteAudit.Proofs.CommonTraffic

/-!
# What reach says about addresses

A side touches a network if it selects some of its traffic, and covers it if it
selects all.  Both are computed from blocks, without a look at single addresses.
This module says what the two answers mean for the addresses of a subnet.

Covering is sound: every address of the network is selected.  Touching is
complete: one address that is selected is enough.  For entries more can be said,
on the half where the answer asks for an overlap: plain entries touch a subnet
exactly if they have one of its addresses, and inverted ones cover it exactly if
they leave out none.  The other half is not exact, since two entries together may
have all addresses of a subnet that none of them covers.

The second question is what becomes of reach when one side contains another.
Containment compares two sides, reach a side and a network, and both have cases
of their own for inverted lists and for networks against addresses.  Where subnets
are disjoint they agree: the larger side reaches whatever the smaller one does.

## Main results

* `Target.touches_ip_iff`, `Target.covers_ip_inverted_iff` — the exact halves.
* `Site.reach_decides_addresses` — what reach says about the addresses of a
  network.
* `Target.selects_of_targetContains` — reach of targets that contain each other.
* `Site.selects_of_endpointContains` — the same for whole sides.
-/

namespace SiteAudit

/-! ## Entries and a subnet -/

namespace Target

variable {n : Network} {subnet : Net.Block} {entries : List String}

/-- Plain entries touch a network exactly if they select one of its addresses. -/
theorem touches_ip_iff (hsubnet : n.subnet = some subnet) :
    (ip entries false).selects n .touches = true ↔
      ∃ a, subnet.contains a = true ∧ (ip entries false).selectsAddress n a = true := by
  simp only [selects, hsubnet, selectsAddress, Bool.bne_false]
  exact Net.Entries.anyOverlap_iff_exists

/-- Inverted entries cover a network exactly if they select all of its addresses. -/
theorem covers_ip_inverted_iff (hsubnet : n.subnet = some subnet) :
    (ip entries true).selects n .covers = true ↔
      ∀ a, subnet.contains a = true → (ip entries true).selectsAddress n a = true := by
  constructor
  · intro h a ha
    exact selectsAddress_of_covers hsubnet ha h
  · intro hall
    simp only [selects, hsubnet, Bool.not_eq_true', Bool.eq_false_iff]
    intro hoverlap
    obtain ⟨a, ha, hcontain⟩ := Net.Entries.anyOverlap_iff_exists.1 hoverlap
    have hselected := hall a ha
    simp [selectsAddress, hcontain] at hselected

/-- What is reached at all is touched: a block is not empty, and a network that is covered has its
first address selected. -/
theorem touches_of_selects {t : Target} (hsubnet : n.subnet = some subnet) {reach : Reach}
    (h : t.selects n reach = true) : t.selects n .touches = true := by
  cases reach with
  | touches => exact h
  | covers =>
      have hfirst := selectsAddress_of_covers hsubnet subnet.contains_first h
      exact touches_of_selectsAddress hsubnet subnet.contains_first hfirst

end Target

namespace Site

/-- **Reach means what it says.**  Take any side of a rule and any network with a subnet.  If the
side covers the network, then its zone admits the network and its target selects every address of
the subnet.  If the zone admits the network and one address is selected, then the side touches the
network.  What is covered is touched.  And where the zone admits the network, plain entries touch it
exactly if they select one of its addresses, and inverted ones cover it exactly if they select
all. -/
theorem reach_decides_addresses (site : Site) (e : Endpoint) {n : Network} {subnet : Net.Block}
    (hsubnet : n.subnet = some subnet) :
    (site.selects e n .covers = true → site.zoneAdmits e n = true ∧
        ∀ a, subnet.contains a = true → e.target.selectsAddress n a = true) ∧
      (site.zoneAdmits e n = true →
        (∃ a, subnet.contains a = true ∧ e.target.selectsAddress n a = true) →
        site.selects e n .touches = true) ∧
      (site.selects e n .covers = true → site.selects e n .touches = true) ∧
      (site.zoneAdmits e n = true → ∀ entries,
        (e.target = .ip entries false →
          (site.selects e n .touches = true ↔
            ∃ a, subnet.contains a = true ∧ e.target.selectsAddress n a = true)) ∧
        (e.target = .ip entries true →
          (site.selects e n .covers = true ↔
            ∀ a, subnet.contains a = true → e.target.selectsAddress n a = true))) := by
  have hcovers : site.selects e n .covers = true → site.zoneAdmits e n = true ∧
      ∀ a, subnet.contains a = true → e.target.selectsAddress n a = true := by
    intro h
    rw [selects, Bool.and_eq_true] at h
    exact ⟨h.1, fun a ha => Target.selectsAddress_of_covers hsubnet ha h.2⟩
  have htouches : site.zoneAdmits e n = true →
      (∃ a, subnet.contains a = true ∧ e.target.selectsAddress n a = true) →
      site.selects e n .touches = true := by
    rintro hzone ⟨a, ha, hselected⟩
    rw [selects, Bool.and_eq_true]
    exact ⟨hzone, Target.touches_of_selectsAddress hsubnet ha hselected⟩
  refine ⟨hcovers, htouches, fun h => ?_,
    fun hzone entries => ⟨fun hplain => ?_, fun hinverted => ?_⟩⟩
  · rw [selects, Bool.and_eq_true] at h ⊢
    exact ⟨h.1, Target.touches_of_selects hsubnet h.2⟩
  · rw [selects, hzone, Bool.true_and, hplain]
    exact Target.touches_ip_iff hsubnet
  · rw [selects, hzone, Bool.true_and, hinverted]
    exact Target.covers_ip_inverted_iff hsubnet

/-- Everything but the upper half of the cameras' subnet, which is given by an address inside it.
One entry cannot be read, and one is of the other family. -/
def lowerHalf : Endpoint :=
  ⟨.ip ["10.30.0.177/25", "laboratory", "fe80::1/10"] true, none, none, false⟩

/-- The lower half touches the network, by the address of a camera in it, and does not cover it,
because of a camera that is left out. -/
theorem reach_decides_addresses_lowerHalf :
    let site := Site.ofRules [] [cameras]
    let low : Net.Address := .ofBits .v4 0x0A1E0005
    let high : Net.Address := .ofBits .v4 0x0A1E00C8
    cameras.subnet = some (.ofBits .v4 0x0A1E0000 24) ∧ site.zoneAdmits lowerHalf cameras = true ∧
      lowerHalf.target.selectsAddress cameras low = true ∧
      lowerHalf.target.selectsAddress cameras high = false ∧
      site.selects lowerHalf cameras .touches = true ∧
      site.selects lowerHalf cameras .covers = false := by
  intro site low high
  have hzone : site.zoneAdmits lowerHalf cameras = true := rfl
  have hlow : lowerHalf.target.selectsAddress cameras low = true := by decide
  have hhigh : lowerHalf.target.selectsAddress cameras high = false := by decide
  obtain ⟨hcovers, htouches, _, _⟩ := reach_decides_addresses site lowerHalf
    (show cameras.subnet = some (.ofBits .v4 0x0A1E0000 24) from rfl)
  refine ⟨rfl, hzone, hlow, hhigh, htouches hzone ⟨low, by decide, hlow⟩, ?_⟩
  rw [Bool.eq_false_iff]
  intro h
  have hselected := (hcovers h).2 high (by decide)
  rw [hhigh] at hselected
  cases hselected

end Site

/-! ## Entries that contain each other -/

namespace Net.Entries

variable {a b outer inner : List String} {block : Block}

/-- What covers a block of one list is covered by a list that contains that one. -/
theorem anyCover_of_contains (h : Scope.byAddresses.contains outer inner = true)
    (hcover : anyCover inner block = true) : anyCover outer block = true := by
  obtain ⟨i, hi, hcovers⟩ := anyCover_iff.1 hcover
  obtain ⟨o, ho, hcovers'⟩ := anyCover_iff.1 (List.all_eq_true.1 h i hi)
  exact anyCover_iff.2 ⟨o, ho, Block.covers_trans hcovers' hcovers⟩

theorem anyOverlap_of_contains (h : Scope.byAddresses.contains outer inner = true)
    (hoverlap : anyOverlap inner block = true) : anyOverlap outer block = true := by
  obtain ⟨x, hx, hinner⟩ := anyOverlap_iff_exists.1 hoverlap
  have houter := Scope.byAddresses_correct.contains_sound outer inner h x hinner
  exact anyOverlap_iff_exists.2 ⟨x, hx, houter⟩

/-- Of two lists without a common address, one that covers a block leaves nothing of it to the
other. -/
theorem anyOverlap_eq_false_of_anyCover (h : Scope.byAddresses.overlaps a b = false)
    (hcover : anyCover a block = true) : anyOverlap b block = false := by
  rw [Bool.eq_false_iff] at h ⊢
  intro hoverlap
  obtain ⟨x, hx, hb⟩ := anyOverlap_iff_exists.1 hoverlap
  have ha : anyContain a x = true := anyContain_of_anyCover hcover hx
  exact h (Scope.byAddresses_correct.overlaps_complete a b x ha hb)

end Net.Entries

/-! ## Subnets that are disjoint -/

/-- No two networks of the site have subnets that overlap. -/
def Site.HasDisjointSubnets (site : Site) : Prop :=
  site.networks.Pairwise fun m n => ∀ a ∈ m.subnet, ∀ b ∈ n.subnet, a.overlaps b = false

instance (site : Site) : Decidable site.HasDisjointSubnets :=
  have (m n : Network) : Decidable (∀ a ∈ m.subnet, ∀ b ∈ n.subnet, a.overlaps b = false) :=
    inferInstance
  inferInstanceAs (Decidable (site.networks.Pairwise _))

theorem Site.HasDisjointSubnets.eq_of_overlaps {site : Site} (h : site.HasDisjointSubnets)
    {m n : Network} (hm : m ∈ site.networks) (hn : n ∈ site.networks) {a b : Net.Block}
    (ha : m.subnet = some a) (hb : n.subnet = some b) (hoverlaps : a.overlaps b = true) :
    m = n := by
  have hsymm : Std.Symm fun m n : Network =>
      ∀ a ∈ m.subnet, ∀ b ∈ n.subnet, a.overlaps b = false :=
    ⟨fun m n hmn b hb a ha => by rw [Net.Block.overlaps_comm, hmn a ha b hb]⟩
  by_contra hne
  have hapart := h.forall hm hn hne a ha b hb
  rw [hoverlaps] at hapart
  cases hapart

/-! ## Targets that contain each other -/

namespace Target

variable {site : Site} {n : Network} {reach : Reach}

/-- Network lists, inverted or not: reach of a network is membership of its id. -/
theorem selects_network_of_contains {outer inner : List String}
    {outerInverted innerInverted : Bool}
    (h : Scope.byElements.invertedContains ⟨outer, outerInverted⟩ ⟨inner, innerInverted⟩ = true)
    (hinner : (network inner innerInverted).selects n reach = true) :
    (network outer outerInverted).selects n reach = true :=
  Scope.byElements_correct.has_of_contains (x := some n.id) h hinner

/-- Entries, inverted or not. -/
theorem selects_ip_of_contains {outer inner : List String} {outerInverted innerInverted : Bool}
    (h : Scope.byAddresses.invertedContains ⟨outer, outerInverted⟩ ⟨inner, innerInverted⟩ = true)
    (hinner : (ip inner innerInverted).selects n reach = true) :
    (ip outer outerInverted).selects n reach = true := by
  unfold selects at hinner ⊢
  cases hsubnet : n.subnet with
  | none => simp [hsubnet] at hinner
  | some subnet =>
      rw [hsubnet] at hinner
      cases outerInverted with
      | false =>
          cases innerInverted with
          | true => cases h
          | false =>
              cases reach with
              | touches => exact Net.Entries.anyOverlap_of_contains h hinner
              | covers => exact Net.Entries.anyCover_of_contains h hinner
      | true =>
          simp only [Scope.Comparison.invertedContains] at h
          cases innerInverted with
          | true =>
              cases reach <;> simp only [Bool.not_eq_true', Bool.eq_false_iff] at hinner ⊢
              · exact fun hcover => hinner (Net.Entries.anyCover_of_contains h hcover)
              · exact fun hoverlap => hinner (Net.Entries.anyOverlap_of_contains h hoverlap)
          | false =>
              -- The lists have no address in common, and the subnet meets only one of them.
              rw [Bool.not_eq_true'] at h
              cases reach <;> simp only [Bool.not_eq_true'] at hinner ⊢
              · rw [Bool.eq_false_iff]
                intro hcover
                rw [Net.Entries.anyOverlap_eq_false_of_anyCover h hcover] at hinner
                cases hinner
              · rw [Scope.byAddresses_symmetric] at h
                exact Net.Entries.anyOverlap_eq_false_of_anyCover h hinner

/-- Entries that cover the subnets of all networks of a list cover each network of the list, and so
they touch it. -/
theorem selects_ip_of_addressesContainNetworks (hids : (site.networks.map Network.id).Nodup)
    (hn : n ∈ site.networks) {entries ids : List String}
    (h : Scope.addressesContainNetworks site entries ids = true)
    (hinner : (network ids false).selects n reach = true) :
    (ip entries false).selects n reach = true := by
  have hmem : n.id ∈ ids := by simpa [selects] using hinner
  have hfound : (site.network? n.id).bind Network.subnet ∈ Scope.subnets site ids :=
    List.mem_map_of_mem hmem
  rw [Site.network_eq_some hids hn] at hfound
  obtain ⟨subnet, hsubnet, hcover⟩ := (Option.any_eq_true _ _).1 (List.all_eq_true.1 h _ hfound)
  have hcovers : (ip entries false).selects n .covers = true := by
    unfold selects
    rw [show n.subnet = some subnet from hsubnet]
    exact hcover
  cases reach with
  | touches => exact touches_of_selects hsubnet hcovers
  | covers => exact hcovers

/-- Where subnets are disjoint, entries that lie in the subnets of some networks touch no other
network. -/
theorem selects_network_of_networksContainAddresses (hapart : site.HasDisjointSubnets)
    (hn : n ∈ site.networks) {ids entries : List String}
    (h : Scope.networksContainAddresses site ids entries = true)
    (hinner : (ip entries false).selects n reach = true) :
    (network ids false).selects n reach = true := by
  cases hsubnet : n.subnet with
  | none => simp [selects, hsubnet] at hinner
  | some subnet =>
      obtain ⟨a, ha, hselected⟩ := (touches_ip_iff hsubnet).1 (touches_of_selects hsubnet hinner)
      have hcontain : Net.Entries.anyContain entries a = true := by
        simpa [selectsAddress] using hselected
      obtain ⟨m, hm, hid, around, haround, hin⟩ :=
        exists_network_of_networksContainAddresses h hcontain
      -- The address lies in both subnets, so the two networks are one.
      have hsame : m = n :=
        hapart.eq_of_overlaps hm hn haround hsubnet (Net.Block.overlaps_of_contains hin ha)
      simpa [selects] using hsame ▸ hid

/-- What the inner target reaches, the outer one does. -/
theorem selects_of_targetContains (hids : (site.networks.map Network.id).Nodup)
    (hapart : site.HasDisjointSubnets) (hn : n ∈ site.networks) {outer inner : Target}
    (h : Scope.targetContains site outer inner = true) (hinner : inner.selects n reach = true) :
    outer.selects n reach = true := by
  -- One case for each pair of kinds that compare, in the order of the definition.
  unfold Scope.targetContains at h
  split at h
  case h_1 => rfl
  case h_2 => simp at h
  case h_3 => exact selects_network_of_contains h hinner
  case h_4 =>
      rw [Bool.and_eq_true] at h
      exact selects_ip_of_contains h.2 hinner
  case h_5 => exact selects_ip_of_addressesContainNetworks hids hn h hinner
  case h_6 => exact selects_network_of_networksContainAddresses hapart hn h hinner
  -- The remaining kinds reach no network.
  case h_7 | h_8 | h_9 | h_10 => simp [selects] at hinner
  case h_11 => simp at h

end Target

/-! ## Sides that contain each other -/

namespace Site

variable {site : Site} {n : Network} {outer inner : Endpoint}

/-- A zone that admits a network is that of the outer side, if the outer side names any. -/
theorem zoneAdmits_of_zonesContain (h : Scope.zonesContain outer inner = true)
    (hinner : site.zoneAdmits inner n = true) : site.zoneAdmits outer n = true := by
  unfold zoneAdmits at hinner ⊢
  rw [Scope.zonesContain] at h
  cases houter : outer.zone with
  | none => rfl
  | some zone =>
      have hzone : inner.zone = some zone := by simpa [houter] using h
      have hexternal : site.isExternal outer = site.isExternal inner := by
        rw [isExternal, isExternal, houter, hzone]
      have hgateway : site.isGateway outer = site.isGateway inner := by
        rw [isGateway, isGateway, houter, hzone]
      rw [hexternal, hgateway]
      simpa only [hzone] using hinner

/-- **Containment and reach agree.**  At a site whose networks have distinct ids and subnets that
are disjoint, let one side of a rule contain another.  Whatever network the inner side touches or
covers, the outer one touches or covers; so a rule whose side is replaced by one that contains it
loses no network. -/
theorem selects_of_endpointContains (site : Site) (hids : (site.networks.map Network.id).Nodup)
    (hapart : site.HasDisjointSubnets) {outer inner : Endpoint}
    (h : Scope.endpointContains site outer inner = true) {n : Network} (hn : n ∈ site.networks)
    (reach : Reach) (hinner : site.selects inner n reach = true) :
    site.selects outer n reach = true := by
  simp only [Scope.endpointContains, Bool.and_eq_true] at h
  rw [selects, Bool.and_eq_true] at hinner ⊢
  obtain ⟨⟨hzones, _⟩, htargets⟩ := h
  obtain ⟨hzone, htarget⟩ := hinner
  exact ⟨zoneAdmits_of_zonesContain hzones hzone,
    Target.selects_of_targetContains hids hapart hn htargets htarget⟩

/-- The cameras and one recorder, by address, for the web. -/
def cameraAddresses : Endpoint :=
  ⟨.ip ["10.30.0.0/24", "10.40.0.9"] false, none, some "443", false⟩

/-- Both networks, by their ids. -/
def cameraNetworks : Endpoint := ⟨.network ["nvr", "cams"] false, none, none, false⟩

/-- The networks contain the addresses, which cover one network and touch the other; so the
networks do that too. -/
theorem selects_of_endpointContains_cameras :
    let site := Site.ofRules [] [cameras, recorders]
    (site.networks.map Network.id).Nodup ∧ site.HasDisjointSubnets ∧
      Scope.endpointContains site cameraNetworks cameraAddresses = true ∧
      site.selects cameraAddresses cameras .covers = true ∧
      site.selects cameraAddresses recorders .touches = true ∧
      site.selects cameraAddresses recorders .covers = false ∧
      site.selects cameraNetworks cameras .covers = true ∧
      site.selects cameraNetworks recorders .touches = true := by
  intro site
  have hids : (site.networks.map Network.id).Nodup := by decide
  have hapart : site.HasDisjointSubnets := by decide
  have hcontains : Scope.endpointContains site cameraNetworks cameraAddresses = true := by decide
  have hcovers : site.selects cameraAddresses cameras .covers = true := by decide
  have htouches : site.selects cameraAddresses recorders .touches = true := by decide
  exact ⟨hids, hapart, hcontains, hcovers, htouches, by decide,
    selects_of_endpointContains site hids hapart hcontains (by decide) .covers hcovers,
    selects_of_endpointContains site hids hapart hcontains (by decide) .touches htouches⟩

end Site

end SiteAudit

import SiteAudit.Proofs.CommonTraffic
import SiteAudit.Site.Reach

/-!
# Destinations on the internet

A side without a zone reaches the internet if its target has public addresses.
One should expect that no such target is missed, and that a list of entries that
has more addresses than another one is not judged to reach less.

A block is judged by its first address alone, unless it is the whole space.  So the
question is when a block that starts at an address that is not public has public
ones.  Blocks are nested or disjoint, and so are the reserved blocks with all
others: a block that starts inside a reserved block lies in it as a whole, or it
begins with that block and goes on beyond it.  The blocks of the second sort are
the ones that are judged wrongly, and the lower half of the address space, which
begins with the unspecified address, is among them.

Lists of networks are judged without regard to inversion: everything but some
networks is taken to have no public address at all.

## Main results

* `Net.Block.startsPublic_eq_false_iff` — what the first address says about a
  block.
* `Target.isOutside_eq_false_iff` — the targets that are missed.
* `Site.internet_missed_iff` — when a destination is missed, and what happens when
  a list gets wider.
* `Site.half_default_missed` — inputs at which this goes wrong.
-/

namespace SiteAudit

/-! ## Blocks and their first address -/

namespace Net.Block

/-- What the audit looks at: whether a block is everything, or starts at a public address. -/
def startsPublic (b : Block) : Bool := b.prefixLength == 0 || isPublic b.network

/-- All addresses of the block are reserved. -/
def IsReserved (b : Block) : Prop := ∃ r ∈ reserved, r.covers b = true

instance (b : Block) : Decidable b.IsReserved :=
  inferInstanceAs (Decidable (∃ r ∈ reserved, _))

/-- The block begins with a reserved block and goes on beyond it, but is not the whole space. -/
def OutgrowsReserved (b : Block) : Prop :=
  b.prefixLength ≠ 0 ∧ ∃ r ∈ reserved, b.family = r.family ∧ b.first = r.first ∧ r.last < b.last

instance (b : Block) : Decidable b.OutgrowsReserved :=
  inferInstanceAs (Decidable (_ ∧ ∃ r ∈ reserved, _ ∧ _ ∧ _))

theorem isPublic_eq_false_iff {a : Address} :
    isPublic a = false ↔ ∃ r ∈ reserved, r.contains a = true := by
  simp [isPublic]

theorem first_le_last (b : Block) : b.first ≤ b.last := by
  unfold last
  omega

/-- A block that covers another one has a prefix that is not longer. -/
theorem prefixLength_le_of_covers {outer inner : Block} (h : outer.covers inner = true) :
    outer.prefixLength ≤ inner.prefixLength := by
  obtain ⟨hfamily, hfirst, hlast⟩ := covers_iff.1 h
  have hsize : inner.size ≤ outer.size := by
    have hpos := outer.size_pos
    unfold last at hlast
    omega
  have hbits : inner.freeBits ≤ outer.freeBits := (Nat.pow_le_pow_iff_right (by decide)).1 hsize
  have houter := outer.fits
  have hinner := inner.fits
  unfold freeBits at hbits
  unfold family at hbits hfamily
  rw [hfamily] at hbits houter
  omega

/-- A block that does not start public is reserved, or it begins with a reserved block. -/
theorem startsPublic_eq_false_iff {b : Block} :
    b.startsPublic = false ↔ b.IsReserved ∨ b.OutgrowsReserved := by
  rw [startsPublic, Bool.or_eq_false_iff, beq_eq_false_iff_ne, isPublic_eq_false_iff]
  constructor
  · rintro ⟨hproper, r, hr, hcontains⟩
    by_cases hcovers : r.covers b = true
    · exact Or.inl ⟨r, hr, hcovers⟩
    · -- The two are nested, so the reserved block lies in the other one, at its start.
      have hnested := overlaps_of_contains b.contains_first hcontains
      rw [overlaps, Bool.or_eq_true] at hnested
      obtain ⟨hfamily, hfirst, hlast⟩ := covers_iff.1 (hnested.resolve_right hcovers)
      obtain ⟨_, hstart, _⟩ := contains_iff.1 hcontains
      rw [bits_network] at hstart
      have hsame : b.first = r.first := Nat.le_antisymm hfirst hstart
      refine Or.inr ⟨hproper, r, hr, hfamily, hsame, Nat.lt_of_le_of_ne hlast fun heq => ?_⟩
      exact hcovers (covers_iff.2 ⟨hfamily.symm, hstart, Nat.le_of_eq heq.symm⟩)
  · rintro (⟨r, hr, hcovers⟩ | ⟨hproper, r, hr, hfamily, hfirst, _⟩)
    · have hnone : ∀ r ∈ reserved, r.prefixLength ≠ 0 := by decide
      have hle := prefixLength_le_of_covers hcovers
      have hpos := hnone r hr
      exact ⟨by omega, r, hr, contains_of_covers hcovers b.contains_first⟩
    · have hlast := r.first_le_last
      rw [hfirst.symm] at hlast
      refine ⟨hproper, r, hr, contains_iff.2 ⟨hfamily.symm, ?_, ?_⟩⟩
      · rw [bits_network]
        exact Nat.le_of_eq hfirst.symm
      · rw [bits_network]
        exact hlast

/-- A block that is judged by a first address that is not public, and has a public one. -/
theorem outgrowsReserved_of_contains {b : Block} {a : Address} (ha : b.contains a = true)
    (hpublic : isPublic a = true) (h : b.startsPublic = false) : b.OutgrowsReserved := by
  rcases startsPublic_eq_false_iff.1 h with ⟨r, hr, hcovers⟩ | houtgrows
  · have hreserved := isPublic_eq_false_iff.2 ⟨r, hr, contains_of_covers hcovers ha⟩
    rw [hpublic] at hreserved
    cases hreserved
  · exact houtgrows

/-- A block that covers one that starts public does so too, unless it outgrows a reserved one. -/
theorem startsPublic_of_covers {wide b : Block} (hcovers : wide.covers b = true)
    (hwide : ¬wide.OutgrowsReserved) (hb : b.startsPublic = true) : wide.startsPublic = true := by
  by_contra hnot
  rcases startsPublic_eq_false_iff.1 (Bool.eq_false_iff.2 hnot) with ⟨r, hr, hreserved⟩ | houtgrows
  · have hinside : b.IsReserved := ⟨r, hr, covers_trans hreserved hcovers⟩
    rw [startsPublic_eq_false_iff.2 (Or.inl hinside)] at hb
    cases hb
  · exact hwide houtgrows

end Net.Block

/-! ## Targets -/

namespace Target

/-- The targets that are taken to have no public address: everything but some networks, and lists
of which each block is reserved, or begins with a reserved block. -/
def HidesInternet : Target → Prop
  | .network _ inverted => inverted = true
  | .ip entries false => ∀ b ∈ Net.Entries.blocks entries, b.IsReserved ∨ b.OutgrowsReserved
  | _ => False

theorem isOutside_ip (entries : List String) :
    (ip entries false).isOutside = (Net.Entries.blocks entries).any Net.Block.startsPublic := rfl

/-- Of the targets that select somebody in no network, by place, those are missed that hide the
internet. -/
theorem isOutside_eq_false_iff {t : Target} {p : Party} (hnetwork : p.network = none)
    (hplace : t.isPlace = true) (happlies : t.appliesTo p = true) :
    t.isOutside = false ↔ t.HidesInternet := by
  cases t with
  | any => simp [isOutside, HidesInternet]
  | network ids inverted =>
      have hinverted : inverted = true := by simpa [appliesTo, hnetwork] using happlies
      simp [isOutside, HidesInternet, hinverted]
  | ip entries inverted =>
      cases inverted with
      | true => simp [isOutside, HidesInternet]
      | false =>
          rw [isOutside_ip, List.any_eq_false]
          simp only [HidesInternet, Bool.not_eq_true, Net.Block.startsPublic_eq_false_iff]
  | client | web | app | appCategory | unsupported => cases hplace

/-- A list that is missed and has a public address has it in a block that outgrows a reserved
one. -/
theorem exists_outgrowsReserved {entries : List String} {a : Net.Address}
    (ha : Net.Entries.anyContain entries a = true) (hpublic : Net.Block.isPublic a = true)
    (h : (ip entries false).isOutside = false) :
    ∃ b ∈ Net.Entries.blocks entries, b.contains a = true ∧ b.OutgrowsReserved := by
  obtain ⟨b, hb, hcontains⟩ := Net.Entries.anyContain_iff.1 ha
  have hstarts : b.startsPublic = false := by
    rw [isOutside_ip, List.any_eq_false] at h
    simpa using h b hb
  exact ⟨b, hb, hcontains, Net.Block.outgrowsReserved_of_contains hcontains hpublic hstarts⟩

/-- More entries do not hide what the others show. -/
theorem isOutside_of_subset {entries wider : List String} (hsubset : entries ⊆ wider)
    (h : (ip entries false).isOutside = true) : (ip wider false).isOutside = true := by
  rw [isOutside_ip] at h ⊢
  obtain ⟨b, hb, hstarts⟩ := List.any_eq_true.1 h
  obtain ⟨entry, hentry, hread⟩ := List.mem_filterMap.1 hb
  exact List.any_eq_true.2 ⟨b, List.mem_filterMap.2 ⟨entry, hsubset hentry, hread⟩, hstarts⟩

/-- Nor do wider entries, if none outgrows a reserved block. -/
theorem isOutside_of_contains {entries wider : List String}
    (hcontains : Scope.byAddresses.contains wider entries = true)
    (hwider : ∀ b ∈ Net.Entries.blocks wider, ¬b.OutgrowsReserved)
    (h : (ip entries false).isOutside = true) : (ip wider false).isOutside = true := by
  rw [isOutside_ip] at h ⊢
  obtain ⟨b, hb, hstarts⟩ := List.any_eq_true.1 h
  obtain ⟨wide, hwide, hcovers⟩ :=
    Net.Entries.anyCover_iff.1 (List.all_eq_true.1 hcontains b hb)
  exact List.any_eq_true.2
    ⟨wide, hwide, Net.Block.startsPublic_of_covers hcovers (hwider wide hwide) hstarts⟩

end Target

/-! ## Sides -/

/-- A party at a public address, in none of the site's networks by name or by subnet. -/
structure Party.IsOutside (p : Party) (site : Site) : Prop where
  network : p.network = none
  address : ∀ n ∈ site.networks, n.contains p.address = false
  isPublic : Net.Block.isPublic p.address = true

/-- The side with other entries as its target. -/
def Endpoint.withEntries (e : Endpoint) (entries : List String) : Endpoint :=
  { e with target := .ip entries false }

namespace Site

variable {site : Site} {e : Endpoint}

/-- Without a zone it is the target that decides, in an external zone the answer is always yes. -/
theorem reachesInternet_eq (hzone : e.zone = none ∨ site.isExternal e = true) :
    site.reachesInternet e = (site.isExternal e || e.target.isOutside) := by
  unfold reachesInternet
  cases hexternal : site.isExternal e with
  | true => rfl
  | false =>
      have hnone : e.zone = none := by simpa [hexternal] using hzone
      simp [hnone]

theorem isExternal_eq_false_iff (hzone : e.zone = none ∨ site.isExternal e = true) :
    site.isExternal e = false ↔ e.zone = none := by
  constructor
  · intro h
    simpa [h] using hzone
  · intro h
    simp [isExternal, ZoneTable.isExternal, h]

/-- **When a destination on the internet is missed.**  Take a side without a zone, or in an external
one.  Let it select, by place, a party at a public address that lies in no network of the site.
Then the side is said not to reach the internet exactly if it has no zone and its target is one that
hides the internet; and if that is a list of entries, the address is in a block that begins with a
reserved one and goes on beyond it.  A plain list that reaches the internet still does with more
entries, and with wider blocks too unless one of these outgrows a reserved block. -/
theorem internet_missed_iff (site : Site) {e : Endpoint}
    (hzone : e.zone = none ∨ site.isExternal e = true) :
    (∀ p : Party, p.IsOutside site → e.target.isPlace = true → e.target.appliesTo p = true →
      (site.reachesInternet e = false ↔ e.zone = none ∧ e.target.HidesInternet) ∧
        ∀ entries, e.target = .ip entries false → site.reachesInternet e = false →
          ∃ b ∈ Net.Entries.blocks entries, b.contains p.address = true ∧ b.OutgrowsReserved) ∧
      ∀ entries wider, e.target = .ip entries false → site.reachesInternet e = true →
        (entries ⊆ wider → site.reachesInternet (e.withEntries wider) = true) ∧
        (Scope.byAddresses.contains wider entries = true →
          (∀ b ∈ Net.Entries.blocks wider, ¬b.OutgrowsReserved) →
          site.reachesInternet (e.withEntries wider) = true) := by
  rw [reachesInternet_eq hzone]
  refine ⟨fun p hout hplace happlies => ⟨?_, ?_⟩, ?_⟩
  · rw [Bool.or_eq_false_iff, isExternal_eq_false_iff hzone,
      Target.isOutside_eq_false_iff hout.network hplace happlies]
  · intro entries htarget hmissed
    rw [htarget] at happlies hmissed
    have ha : Net.Entries.anyContain entries p.address = true := by
      simpa [Target.appliesTo] using happlies
    exact Target.exists_outgrowsReserved ha hout.isPublic (Bool.or_eq_false_iff.1 hmissed).2
  · intro entries wider htarget hreaches
    have hwide : site.reachesInternet (e.withEntries wider) =
        (site.isExternal e || (Target.ip wider false).isOutside) := reachesInternet_eq hzone
    rw [htarget, Bool.or_eq_true] at hreaches
    rw [hwide, Bool.or_eq_true]
    exact ⟨fun hsubset => hreaches.imp_right (Target.isOutside_of_subset hsubset),
      fun hcontains hwider => hreaches.imp_right (Target.isOutside_of_contains hcontains hwider)⟩

/-- A public name server. -/
def nameServer : Party :=
  ⟨none, "53", .ofBits .v4 0x08080808, none, "", "", 0, 0⟩

/-- A destination of some private addresses and those around the name server. -/
def nearNameServer : Endpoint :=
  ⟨.ip ["10.0.0.0/8", "8.8.8.0/24", "laboratory"] false, none, none, false⟩

/-- The destination is not missed, although its first block is reserved; nor is the one block that
has all of its addresses, since it starts at a public one. -/
theorem internet_missed_iff_nearNameServer :
    let site := Site.ofRules [] [cameras]
    nearNameServer.zone = none ∧ nameServer.IsOutside site ∧
      nearNameServer.target.isPlace = true ∧ nearNameServer.target.appliesTo nameServer = true ∧
      site.reachesInternet nearNameServer = true ∧
      site.reachesInternet (nearNameServer.withEntries ["8.0.0.0/6"]) = true := by
  intro site
  have hout : nameServer.IsOutside site := ⟨rfl, by decide, by decide⟩
  have happlies : nearNameServer.target.appliesTo nameServer = true := by decide
  obtain ⟨hmissed, hwider⟩ := internet_missed_iff site (e := nearNameServer) (Or.inl rfl)
  have hreaches : site.reachesInternet nearNameServer = true := by
    rw [← Bool.not_eq_false, (hmissed nameServer hout rfl happlies).1]
    rintro ⟨_, hhides⟩
    exact absurd hhides (by unfold nearNameServer Target.HidesInternet; decide)
  exact ⟨rfl, hout, rfl, happlies, hreaches,
    (hwider _ ["8.0.0.0/6"] rfl hreaches).2 (by decide) (by decide)⟩

/-- The lower half of all addresses of the fourth version. -/
def lowerHalfOfAll : Endpoint := ⟨.ip ["0.0.0.0/1"] false, none, none, false⟩

/-- Everything but the network of the cameras. -/
def awayFromCameras : Endpoint := ⟨.network ["cams"] true, none, none, false⟩

/-- **Half of a default route is missed.**  The name server is outside the site, and both
destinations select it: the lower half of all addresses, and everything but the cameras.  Neither is
said to reach the internet, although the few addresses around the name server are. -/
theorem half_default_missed :
    let site := Site.ofRules [] [cameras]
    nameServer.IsOutside site ∧
      lowerHalfOfAll.zone = none ∧ awayFromCameras.zone = none ∧
      lowerHalfOfAll.target.appliesTo nameServer = true ∧
      awayFromCameras.target.appliesTo nameServer = true ∧
      site.reachesInternet lowerHalfOfAll = false ∧ site.reachesInternet awayFromCameras = false ∧
      Scope.byAddresses.contains ["0.0.0.0/1"] ["8.8.8.0/24"] = true ∧
      site.reachesInternet (lowerHalfOfAll.withEntries ["8.8.8.0/24"]) = true := by
  intro site
  exact ⟨⟨rfl, by decide, by decide⟩, rfl, rfl, by decide, by decide, by decide, by decide,
    by decide, by decide⟩

end Site

end SiteAudit

import SiteAudit.Net.Entries
import SiteAudit.Site.Basic

/-!
# What a side of a rule reaches

Two questions about one side of a rule. Which networks of the site does it
select: some of their traffic, or all of it? And can its traffic leave the
site?

A target whose kind says nothing about addresses (clients, web domains,
applications, unsupported ones) selects no network.

## Main results

* `selects_iff` — what is selected by a side that names its networks.
-/

namespace SiteAudit

/-- How much of a network a side has to select. -/
inductive Reach where
  /-- Some of its traffic. -/
  | touches
  /-- All of its traffic. -/
  | covers
deriving Repr, DecidableEq

/--
Whether a target selects that much of a network. Inverted entries turn the two questions around:
what they leave touches a subnet unless they cover it, and covers it unless they touch it.
-/
def Target.selects (t : Target) (n : Network) (reach : Reach) : Bool :=
  match t with
  | .any => true
  | .network ids inverted => ids.contains n.id != inverted
  | .ip entries inverted =>
    match n.subnet, reach, inverted with
    | none, _, _ => false
    | some subnet, .touches, false => Net.Entries.anyOverlap entries subnet
    | some subnet, .covers, false => Net.Entries.anyCover entries subnet
    | some subnet, .touches, true => !Net.Entries.anyCover entries subnet
    | some subnet, .covers, true => !Net.Entries.anyOverlap entries subnet
  | _ => false

/-- Whether a target without a zone can be outside the site. -/
def Target.isOutside : Target → Bool
  | .any => true
  | .web _ => true
  | .app _ => true
  | .appCategory _ => true
  | .ip entries inverted =>
    inverted || (Net.Entries.blocks entries).any fun b =>
      b.prefixLength == 0 || Net.Block.isPublic b.network
  | _ => false

namespace Site

/--
Whether the zone of a side admits traffic of a network. A network is in the zone that it names
itself, or else in the one that lists it; one in no zone is admitted everywhere but outside.
-/
def zoneAdmits (site : Site) (e : Endpoint) (n : Network) : Bool :=
  match e.zone with
  | none => true
  | some zone =>
    if site.isExternal e || site.isGateway e then false
    else match n.zone with
      | some own => own == zone
      | none => (site.zones.owner? n.id).all (·.id == zone)

/-- Whether a side selects that much of a network. -/
def selects (site : Site) (e : Endpoint) (n : Network) (reach : Reach) : Bool :=
  site.zoneAdmits e n && e.target.selects n reach

/-- Whether a side touches one of the networks. -/
def touchesAny (site : Site) (e : Endpoint) (networks : List Network) : Bool :=
  networks.any fun n => site.selects e n .touches

/-- Whether traffic to a side can leave the site. A zone decides it; without one the target does. -/
def reachesInternet (site : Site) (e : Endpoint) : Bool :=
  if site.isExternal e then true
  else if e.zone.isSome then false
  else e.target.isOutside

/-- The purpose of the network that a side points at: by its id, or by an address inside it. -/
def purposeOf? (site : Site) (e : Endpoint) : Option Purpose :=
  match e.target with
  | .network ids false => (ids.head?.bind site.network?).map Network.purpose
  | .ip entries false =>
    ((Net.Entries.blocks entries).findSome? fun b => site.networkOf? b.network).map
      Network.purpose
  | _ => none

/-! ## Laws -/

/-- A side that names its networks selects those it names, in whole. -/
theorem selects_iff {site : Site} {e : Endpoint} {n : Network} {reach : Reach}
    {ids : List String} (h : e.target = .network ids false) :
    site.selects e n reach = true ↔ site.zoneAdmits e n = true ∧ n.id ∈ ids := by
  simp [selects, Target.selects, h]

end Site

end SiteAudit

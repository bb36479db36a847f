import SiteAudit.Net.Domain
import SiteAudit.Net.Entries
import SiteAudit.Scope.Comparison
import SiteAudit.Site.Basic

/-!
# Comparing targets

Whether what one target selects lies in what another selects, and whether
the two may overlap. Targets of the same kind are compared by their lists.
Networks and addresses are compared through the subnets of the site; where
one of these two is inverted, containment is denied and overlap assumed.
Targets of other kinds do not compare, but for one that selects everything.

## Main results

* `targetOverlaps_any` — any overlaps all but what is not understood.
-/

namespace SiteAudit.Scope

/-- The blocks of the entries, if every one of them can be read. -/
def readable? (entries : List String) : Option (List Net.Block) := entries.mapM Net.Block.ofEntry?

/--
Address entries by the blocks they stand for. An entry that cannot be read stands for nothing, and
a list with such an entry contains what it has but is not contained itself.
-/
def byAddresses : Comparison (List String) where
  contains outer inner := (Net.Entries.blocks inner).all (Net.Entries.anyCover outer)
  overlaps a b := (Net.Entries.blocks a).any (Net.Entries.anyOverlap b)

/-- MAC addresses, without regard to ASCII letter case. -/
def byMacs : Comparison (List String) where
  contains outer inner := inner.all fun m => outer.any (Text.sameAsciiFold m)
  overlaps a b := a.any fun m => b.any (Text.sameAsciiFold m)

/-- Domains with their subdomains. -/
def byDomains : Comparison (List String) where
  contains outer inner := inner.all fun host => outer.any (Net.Domain.covers · host)
  overlaps a b := a.any fun x => b.any fun y => Net.Domain.covers x y || Net.Domain.covers y x

/-- The subnets of the networks with these ids; `none` for a network without one. -/
def subnets (site : Site) (ids : List String) : List (Option Net.Block) :=
  ids.map fun id => (site.network? id).bind Network.subnet

/-- Whether each of the networks has a subnet that the entries cover. -/
def addressesContainNetworks (site : Site) (entries ids : List String) : Bool :=
  (subnets site ids).all fun subnet => subnet.any (Net.Entries.anyCover entries)

/-- Whether each entry can be read and lies in the subnet of one of the networks. -/
def networksContainAddresses (site : Site) (ids entries : List String) : Bool :=
  entries.all fun entry =>
    (Net.Block.ofEntry? entry).any fun b =>
      (subnets site ids).any fun subnet => subnet.any (·.covers b)

/-- Whether one of the networks has a subnet that the entries touch. -/
def networksMeetAddresses (site : Site) (ids entries : List String) : Bool :=
  (subnets site ids).any fun subnet => subnet.any (Net.Entries.anyOverlap entries)

/-- Whether the inner target is known to select only what the outer one selects. -/
def targetContains (site : Site) (outer inner : Target) : Bool :=
  match outer, inner with
  | .any, _ => true
  | _, .any => false
  | .network o oi, .network i ii => byElements.invertedContains ⟨o, oi⟩ ⟨i, ii⟩
  | .ip o oi, .ip i ii =>
    (readable? i).isSome && byAddresses.invertedContains ⟨o, oi⟩ ⟨i, ii⟩
  | .ip entries false, .network ids false => addressesContainNetworks site entries ids
  | .network ids false, .ip entries false => networksContainAddresses site ids entries
  | .client o, .client i => byMacs.contains o i
  | .web o, .web i => byDomains.contains o i
  | .app o, .app i => byElements.contains o i
  | .appCategory o, .appCategory i => byElements.contains o i
  | _, _ => false

/-- Whether two targets may select something in common. -/
def targetOverlaps (site : Site) (a b : Target) : Bool :=
  match a, b with
  | .unsupported _, _ => false
  | _, .unsupported _ => false
  | .any, _ => true
  | _, .any => true
  | .network x xi, .network y yi => byElements.invertedOverlaps ⟨x, xi⟩ ⟨y, yi⟩
  | .ip x xi, .ip y yi => byAddresses.invertedOverlaps ⟨x, xi⟩ ⟨y, yi⟩
  | .network ids false, .ip entries false => networksMeetAddresses site ids entries
  | .ip entries false, .network ids false => networksMeetAddresses site ids entries
  | .network _ _, .ip _ _ => true
  | .ip _ _, .network _ _ => true
  | .client x, .client y => byMacs.overlaps x y
  | .web x, .web y => byDomains.overlaps x y
  | .app x, .app y => byElements.overlaps x y
  | .appCategory x, .appCategory y => byElements.overlaps x y
  | _, _ => false

/-! ## Laws -/

/-- Any overlaps all but what is not understood. -/
theorem targetOverlaps_any {site : Site} {t : Target} :
    targetOverlaps site .any t = true ↔ ∀ name, t ≠ .unsupported name := by
  cases t <;> simp [targetOverlaps]

end SiteAudit.Scope

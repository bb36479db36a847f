import SiteAudit.Firewall.Rule
import SiteAudit.Net.Domain
import SiteAudit.Net.Entries

/-!
# Flows

What rules are about: traffic of one protocol, in one connection state,
between two parties. This is the meaning of a rule, said without a site: a
rule applies to a flow if its protocol, its states and both its sides do.

Whether one rule contains another, or overlaps it, is a question about all
flows.

## Main results

* `appliesTo_iff` — the parts of a rule that have to apply.
-/

namespace SiteAudit

/-- One end of a flow. -/
structure Party where
  zone : Option String
  port : String
  address : Net.Address
  /-- The network of the site that the party is in. -/
  network : Option String
  mac : String
  host : String
  app : Int
  category : Int
deriving Repr, DecidableEq

/-- Traffic between two parties. -/
structure Flow where
  protocol : Protocol
  state : String
  source : Party
  destination : Party
deriving Repr, DecidableEq

/-- Whether a target selects a party. -/
def Target.appliesTo (t : Target) (p : Party) : Bool :=
  match t with
  | .any => true
  | .network ids inverted => p.network.any ids.contains != inverted
  | .ip entries inverted => Net.Entries.anyContain entries p.address != inverted
  | .client macs => macs.any (Text.sameAsciiFold p.mac)
  | .web domains => domains.any (Net.Domain.covers · p.host)
  | .app ids => ids.contains p.app
  | .appCategory ids => ids.contains p.category
  | .unsupported _ => false

/-- Whether a side selects a party. -/
def Endpoint.appliesTo (e : Endpoint) (p : Party) : Bool :=
  e.zone.all (p.zone == some ·) && e.includesPort p.port && e.target.appliesTo p

/-- Whether a rule applies to a flow. -/
def Rule.appliesTo (r : Rule) (f : Flow) : Bool :=
  r.protocol.admits f.protocol && r.stateNames.contains f.state &&
    r.source.appliesTo f.source && r.destination.appliesTo f.destination

/-- The parts of a rule that have to apply. -/
theorem Rule.appliesTo_iff {r : Rule} {f : Flow} :
    r.appliesTo f = true ↔
      r.protocol.admits f.protocol = true ∧ f.state ∈ r.stateNames ∧
        r.source.appliesTo f.source = true ∧ r.destination.appliesTo f.destination = true := by
  simp [appliesTo, and_assoc]

end SiteAudit

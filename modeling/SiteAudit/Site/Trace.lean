import SiteAudit.Firewall.Verdict
import SiteAudit.Site.Reach

/-!
# Traffic between networks

Which rule decides on the traffic from one network of the site to another,
and whether a network is kept off the internet.

## Main results

* `mem_traced` — which rules can decide on the traffic.
* `internetBlocked_iff` — what keeps a network off the internet.
-/

namespace SiteAudit

/-- What traffic is narrowed down to: a protocol, a destination port, both or neither. -/
structure TrafficFilter where
  protocol : Option Protocol
  port : Option String
deriving Repr, DecidableEq

/-- Traffic of every protocol to every port. -/
def TrafficFilter.everything : TrafficFilter := ⟨none, none⟩

/-- Whether a rule matches the traffic by its protocol and destination port. -/
def TrafficFilter.admits (filter : TrafficFilter) (r : Rule) : Bool :=
  filter.protocol.all r.protocol.admits && filter.port.all r.destination.includesPort

namespace Site

/-- Whether a rule matches some of the traffic between two networks. -/
def rulesTraffic (site : Site) (source destination : Network) (filter : TrafficFilter) (r : Rule) :
    Bool :=
  site.selects r.source source .touches && site.selects r.destination destination .touches &&
    filter.admits r

/-- The outcome for traffic from one network to another. -/
def trace (site : Site) (source destination : Network) (filter : TrafficFilter)
    (newOnly : Bool) : Verdict :=
  Rule.evaluate site.rules (site.rulesTraffic source destination filter) newOnly

/-- Whether a rule blocks fresh connections of all protocols to the whole internet. -/
def blocksInternet (site : Site) (r : Rule) : Bool :=
  r.enabled && r.blocksNew && r.destination.isAny && r.destination.port.isNone &&
    r.protocol.isEverything && site.reachesInternet r.destination

/-- Whether a network has no internet access: by its own switch, or by a rule. -/
def internetBlocked (site : Site) (n : Network) : Bool :=
  !n.internet || site.rules.any fun r => site.blocksInternet r && site.selects r.source n .covers

/-! ## Laws -/

/-- The rules that can decide on traffic between two networks. -/
theorem mem_traced {site : Site} {source destination : Network} {filter : TrafficFilter}
    {newOnly : Bool} {r : Rule} :
    r ∈ Rule.candidates site.rules (site.rulesTraffic source destination filter) newOnly ↔
      r ∈ site.rules ∧ r.enabled = true ∧ r.action ≠ .unknown ∧
        site.rulesTraffic source destination filter r = true ∧
        (newOnly = true → r.allowsAnswersOnly = false) :=
  Rule.mem_candidates

/-- What keeps a network off the internet. -/
theorem internetBlocked_iff {site : Site} {n : Network} :
    site.internetBlocked n = true ↔
      n.internet = false ∨
        ∃ r ∈ site.rules,
          site.blocksInternet r = true ∧ site.selects r.source n .covers = true := by
  simp [internetBlocked]

end Site

end SiteAudit

import SiteAudit.Finding.Basic
import SiteAudit.Net.Domain
import SiteAudit.Site.Trace

/-!
# What a management network has to reach

An isolated management network without internet access still needs a few
services, or its devices degrade silently: the controller cloud for adoption
and updates, power grants for 6 GHz radios, the time, and the carrier of a
cellular modem. Each needs an allow rule of its own.

A rule that exists to give a management network such a service is a
carve-out; other checks leave it alone.

## Main results

* `mem_requirementsMet` — which services a rule gives.
-/

namespace SiteAudit

/-- A service that management networks need. -/
inductive Requirement where
  | unifi
  | afc
  | ntp
  | cellular
deriving Repr, DecidableEq

namespace Requirement

/-- Every requirement. -/
def all : List Requirement := [unifi, afc, ntp, cellular]

/-- The identifier of a requirement. -/
def id : Requirement → String
  | unifi => "Unifi"
  | afc => "Afc"
  | ntp => "Ntp"
  | cellular => "Cellular"

/-- The service in words. -/
def label : Requirement → String
  | unifi => "UniFi cloud"
  | afc => "AFC"
  | ntp => "NTP"
  | cellular => "5G carrier registration"

/-- The kind of finding for a service that is not reached. -/
def finding : Requirement → FindingKind
  | unifi => .mgmtMissingUnifiAccess
  | afc => .mgmtMissingAfcAccess
  | ntp => .mgmtMissingNtpAccess
  | cellular => .mgmtMissing5gAccess

/-- What to do about a service that is not reached. -/
def hint : Requirement → String
  | unifi => "allow ui.com so devices can reach the UniFi cloud for adoption and updates"
  | afc => "allow afc.ui.com so 6 GHz radios can obtain AFC power grants"
  | ntp => "allow port 123 (or an NTP domain) so devices keep accurate time"
  | cellular => "allow 3gppnetwork.org so the cellular modem can register with its carrier"

/-- The hosts of a service, one of which a domain has to cover. Any time server will do. -/
def hosts : Requirement → List String
  | unifi => ["ui.com", "ubnt.com", "unifi.ui.com"]
  | afc => ["afc.ui.com", "federatedwireless.com"]
  | ntp => []
  | cellular => ["3gppnetwork.org"]

end Requirement

namespace Audit.ManagementAccess

/-- Whether a web domain of the destination covers a host of the service. -/
def coversHost (r : Rule) (req : Requirement) : Bool :=
  r.destination.domains.any fun domain => req.hosts.any (Net.Domain.covers domain)

/-- Whether a domain is named like one of a time server. -/
def isTimeDomain (domain : String) : Bool :=
  let name := (Text.asciiLower domain).toList
  Text.occursIn "ntp".toList name || "time.".toList.isPrefixOf name

/-- Whether the destination is open to time requests: by its port, or by a domain. -/
def reachesTime (r : Rule) : Bool :=
  (r.destination.port.isSome && r.destination.includesPort "123") ||
    r.destination.domains.any isTimeDomain

/-- Whether the destination is the whole internet, for all protocols and ports. -/
def reachesEverything (site : Site) (r : Rule) : Bool :=
  r.destination.isAny && r.destination.port.isNone && r.protocol.isEverything &&
    site.reachesInternet r.destination

/-- Whether what a rule matches includes a service. -/
def satisfies (site : Site) (r : Rule) : Requirement → Bool
  | .unifi => coversHost r .unifi
  | .afc => coversHost r .afc
  | .ntp => reachesTime r
  | .cellular => coversHost r .cellular || reachesEverything site r

/-- The services that a rule gives, whatever its source. -/
def requirementsMet (site : Site) (r : Rule) : List Requirement :=
  if r.isAllow then Requirement.all.filter (satisfies site r) else []

/-- Whether a rule gives a service to a management network that it names. -/
def isCarveOut (site : Site) (r : Rule) : Bool :=
  r.isAllow && !r.source.isAny && site.touchesAny r.source site.managementNetworks &&
    !(requirementsMet site r).isEmpty

/-- The services that the management networks of a site need. -/
def required (site : Site) : List Requirement :=
  [.unifi, .afc, .ntp] ++ if site.hasCellular then [.cellular] else []

/-- The allow rules of users that touch a network with their source. -/
def candidates (site : Site) (n : Network) : List Rule :=
  site.userRules.filter fun r => r.isAllow && site.selects r.source n .touches

/-- The finding about a service that a network does not reach. -/
def missing (n : Network) (req : Requirement) : Finding :=
  Finding.ofKind req.finding
      ("Management network '" ++ n.name ++ "' has no internet access and no rule allowing " ++
        req.label)
    |>.withDescription req.hint
    |>.withCurrent n.name n.vlan
    |>.withDetail "network_id" n.id

/-- The services that no rule gives to a network, if it depends on such rules. -/
def unmet (site : Site) (n : Network) : List Requirement :=
  if n.isolated && site.internetBlocked n then
    (required site).filter fun req => !(candidates site n).any fun r => satisfies site r req
  else []

/-- Services that management networks do not reach. -/
def findings (site : Site) : List Finding :=
  site.managementNetworks.flatMap fun n => (unmet site n).map (missing n)

/-! ## Laws -/

/-- The services that an allow rule gives are those it satisfies. -/
theorem mem_requirementsMet {site : Site} {r : Rule} {req : Requirement} :
    req ∈ requirementsMet site r ↔ r.isAllow = true ∧ satisfies site r req = true := by
  have hall : req ∈ Requirement.all := by cases req <;> decide
  rw [requirementsMet]
  split <;> simp_all

end Audit.ManagementAccess

end SiteAudit

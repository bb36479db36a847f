import SiteAudit.Net.Block
import SiteAudit.Network.Purpose

/-!
# Networks

A network of the site is a VLAN with, most often, a subnet. The native VLAN
is number one: its traffic is not tagged.
-/

namespace SiteAudit

/-- A network of the site. -/
structure Network where
  id : String
  name : String
  vlan : UInt16
  purpose : Purpose
  /-- The purpose in the controller's own words. -/
  statedPurpose : Option String
  subnet : Option Net.Block
  gateway : Option Net.Address
  dhcp : Bool
  /-- DNS servers that are handed out with the leases. -/
  dnsServers : List Net.Address
  isolated : Bool
  internet : Bool
  zone : Option String
  group : Option String
  /-- Routed by a layer-3 switch instead of the gateway. -/
  switchRouted : Bool
deriving Repr, DecidableEq

namespace Network

/-- Whether this is the native VLAN. -/
def isNative (n : Network) : Bool := n.vlan == 1

/-- Whether the address lies in the subnet; a network without one has no addresses. -/
def contains (n : Network) (a : Net.Address) : Bool := n.subnet.any (·.contains a)

theorem contains_iff {n : Network} {a : Net.Address} :
    n.contains a = true ↔ ∃ subnet ∈ n.subnet, subnet.contains a = true := by
  simp [contains, Option.any_eq_true]

end Network

end SiteAudit

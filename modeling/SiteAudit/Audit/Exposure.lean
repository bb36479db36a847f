import SiteAudit.Finding.Basic
import SiteAudit.Site.Basic

/-!
# Ways in from outside

UPnP lets any device open ports on the gateway. A port forward is looked at
for two things: whether its target lies in a sensitive network, and whether
it opens a port of remote administration to every source.

## Main results

* `mem_adminPorts` — which ports a forward opens.
-/

namespace SiteAudit.Audit.Exposure

/-- The ports of remote administration. -/
def remoteAdminPorts : List Nat := [22, 23, 445, 3389, 5900]

/-- The ports of remote administration that a forward has on either side. -/
def adminPorts (f : PortForward) : List Nat :=
  remoteAdminPorts.filter fun port =>
    f.forwardPort.any (PortSpec.includesPort · port) ||
      f.destinationPort.any (PortSpec.includesPort · port)

/-- UPnP, if it is on. -/
def ofUpnp (site : Site) : List Finding :=
  if site.upnp then
    [Finding.ofKind .upnpEnabled
      "UPnP is enabled: any LAN device can open inbound ports on the gateway"]
  else []

/-- The finding about a forward to an address in a sensitive network. -/
def intoSensitive (f : PortForward) (target : Net.Address) (n : Network) : Finding :=
  Finding.ofKind .portForwardToIsolated
      ("Port forward '" ++ f.name ++ "' exposes " ++ target.text ++ " on " ++ n.purpose.name ++
        " network '" ++ n.name ++ "'")
    |>.withCurrent n.name n.vlan
    |>.withDetail "port_forward_id" f.id

/-- A sensitive network that a forward opens, if there is one. -/
def ofTarget (site : Site) (f : PortForward) : Option Finding := do
  let target ← f.forwardIp
  let n ← (site.networkOf? target).filter (·.purpose.isSensitive)
  some (intoSensitive f target n)

/-- The ports of remote administration that a forward opens to every source, if there are any. -/
def ofPorts (f : PortForward) : Option Finding :=
  let ports := adminPorts f
  if f.isRestricted || ports.isEmpty then none
  else
    let list := Text.joinWith ", " (ports.map Numeral.decimal)
    some <| Finding.ofKind .portForwardUnrestricted
        ("Port forward '" ++ f.name ++ "' exposes remote administration port(s) " ++ list ++
          " to any source")
      |>.withDetail "port_forward_id" f.id
      |>.withDetail "ports" list

/-- What is to be said about a forward. -/
def ofForward (site : Site) (f : PortForward) : List Finding :=
  (ofTarget site f).toList ++ (ofPorts f).toList

/-- Ways in from outside. -/
def findings (site : Site) : List Finding :=
  ofUpnp site ++ (site.portForwards.filter (·.enabled)).flatMap (ofForward site)

/-- The ports that a forward opens are those of remote administration on either side. -/
theorem mem_adminPorts {f : PortForward} {port : Nat} :
    port ∈ adminPorts f ↔ port ∈ remoteAdminPorts ∧
      ((∃ spec ∈ f.forwardPort, PortSpec.includesPort spec port = true) ∨
        ∃ spec ∈ f.destinationPort, PortSpec.includesPort spec port = true) := by
  simp [adminPorts, Option.any_eq_true]

end SiteAudit.Audit.Exposure

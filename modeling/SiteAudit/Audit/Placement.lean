import SiteAudit.Finding.Basic
import SiteAudit.Site.Basic

/-!
# Where devices belong

Switches, access points and bridges belong on a management network. A tagged
management network counts before the native one. A device without an address
is nowhere, and nothing is said about it.

## Main results

* `mem_homes` — which networks devices belong on.
-/

namespace SiteAudit.Audit.Placement

/-- The management networks with a subnet. -/
def addressed (site : Site) : List Network := site.managementNetworks.filter (·.subnet.isSome)

/-- The networks that devices belong on: tagged ones, or else the native one. -/
def homes (site : Site) : List Network :=
  let tagged := (addressed site).filter (!·.isNative)
  if tagged.isEmpty then addressed site else tagged

/-- The finding about a device with an address elsewhere. -/
def finding (site : Site) (home : Network) (d : Device) (ip : Net.Address) : Finding :=
  let found :=
    Finding.ofKind .infraNotOnMgmt
        (d.kind.label ++ " '" ++ d.name ++ "' (" ++ ip.text ++
          ") is not on the management network")
      |>.withRecommended home.name home.vlan
      |>.withDetail "device_mac" d.mac
  match site.networkOf? ip with
  | some current => found.withCurrent current.name current.vlan
  | none => found

/-- The finding about a device, if it belongs on a management network and is not there. -/
def finding? (site : Site) (home : Network) (d : Device) : Option Finding :=
  if d.kind.isManaged then
    d.ip.bind fun ip =>
      if (homes site).any (·.contains ip) then none else some (finding site home d ip)
  else none

/-- Devices that are not where they belong. -/
def findings (site : Site) : List Finding :=
  match (homes site).head? with
  | some home => site.devices.filterMap (finding? site home)
  | none => []

/-- Devices belong on management networks only. -/
theorem mem_homes {site : Site} {n : Network} (h : n ∈ homes site) :
    n ∈ site.networks ∧ n.purpose = .management ∧ n.subnet.isSome = true := by
  simp only [homes] at h
  split at h <;> simp_all [addressed, Site.managementNetworks]

end SiteAudit.Audit.Placement

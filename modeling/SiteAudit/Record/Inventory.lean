import SiteAudit.Device
import SiteAudit.Network.Basic
import SiteAudit.PortForward
import SiteAudit.Record.Fields

/-!
# Stored networks, devices and port forwards

How the parts of a site besides its firewall are written as JSON, and how
they are read again. The subnet of a network is stored as it is given: what
is read need not name its first address.
-/

namespace SiteAudit

open Record

/-- An address as JSON: its canonical text. -/
def Net.Address.toJson (a : Net.Address) : Json := .string a.text

/-- A block as JSON: its text in slash notation. -/
def Net.Block.toJson (b : Net.Block) : Json := .string b.text

/-- A network as JSON. -/
def Network.toJson (n : Network) : Json :=
  .object
    [("id", .string n.id),
      ("name", .string n.name),
      ("vlan_id", .nat n.vlan.toNat),
      ("purpose", .string n.purpose.name),
      ("raw_purpose", .ofOption .string n.statedPurpose),
      ("subnet", .ofOption Net.Block.toJson n.subnet),
      ("gateway", .ofOption Net.Address.toJson n.gateway),
      ("dhcp_enabled", .bool n.dhcp),
      ("dhcp_dns_servers", .list Net.Address.toJson n.dnsServers),
      ("network_isolation_enabled", .bool n.isolated),
      ("internet_access_enabled", .bool n.internet),
      ("firewall_zone_id", .ofOption .string n.zone),
      ("network_group", .ofOption .string n.group),
      ("switch_routed", .bool n.switchRouted)]

/-- The network that a value stores. -/
def Network.ofJson? : Json → Option Network :=
  record do
    let id ← required "id" text?
    let name ← required "name" text?
    let vlan ← required "vlan_id" uint16?
    let purpose ← required "purpose" fun value => (caseName? value).bind Purpose.ofName?
    let statedPurpose ← optional "raw_purpose" text?
    let subnet ← optional "subnet" block?
    let gateway ← optional "gateway" address?
    let dhcp ← required "dhcp_enabled" bool?
    let dnsServers ← required "dhcp_dns_servers" (list? address?)
    let isolated ← required "network_isolation_enabled" bool?
    let internet ← required "internet_access_enabled" bool?
    let zone ← optional "firewall_zone_id" text?
    let group ← optional "network_group" text?
    let switchRouted ← required "switch_routed" bool?
    return { id, name, vlan, purpose, statedPurpose, subnet, gateway, dhcp, dnsServers, isolated,
             internet, zone, group, switchRouted }

/-- A device as JSON. -/
def Device.toJson (d : Device) : Json :=
  .object
    [("id", .string d.id),
      ("mac", .string d.mac),
      ("name", .string d.name),
      ("model", .ofOption .string d.model),
      ("kind", .string d.kind.id),
      ("ip", .ofOption Net.Address.toJson d.ip)]

/-- The device that a value stores. -/
def Device.ofJson? : Json → Option Device :=
  record do
    let id ← required "id" text?
    let mac ← required "mac" text?
    let name ← required "name" text?
    let model ← optional "model" text?
    let kind ← required "kind" fun value => (caseName? value).bind DeviceKind.ofId?
    let ip ← optional "ip" address?
    return { id, mac, name, model, kind, ip }

/-- A port forward as JSON. -/
def PortForward.toJson (f : PortForward) : Json :=
  .object
    [("id", .string f.id),
      ("name", .string f.name),
      ("enabled", .bool f.enabled),
      ("forward_ip", .ofOption Net.Address.toJson f.forwardIp),
      ("forward_port", .ofOption .string f.forwardPort),
      ("destination_port", .ofOption .string f.destinationPort),
      ("protocol", .string f.protocol),
      ("source", .ofOption .string f.source)]

/-- The port forward that a value stores. -/
def PortForward.ofJson? : Json → Option PortForward :=
  record do
    let id ← required "id" text?
    let name ← required "name" text?
    let enabled ← required "enabled" bool?
    let forwardIp ← optional "forward_ip" address?
    let forwardPort ← optional "forward_port" text?
    let destinationPort ← optional "destination_port" text?
    let protocol ← required "protocol" text?
    let source ← optional "source" text?
    return { id, name, enabled, forwardIp, forwardPort, destinationPort, protocol, source }

end SiteAudit

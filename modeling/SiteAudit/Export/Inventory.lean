import SiteAudit.Export.Field
import SiteAudit.Device
import SiteAudit.Firewall.Group
import SiteAudit.Firewall.Zone
import SiteAudit.PortForward

/-!
# Devices, zones, groups and port forwards in exported documents

The rest of what a controller exports. Rows that lack what they are known by
are left out: a device without a MAC address, a zone without a name and a
key, a group of an unknown type.
-/

namespace SiteAudit.Export

/-! ## Devices -/

/-- The kind of device that a type names. -/
def kindOfType? (type : String) : Option DeviceKind :=
  let type := Text.asciiLower type
  if type = "uap" then some .accessPoint
  else if type = "usw" then some .switch
  else if type = "ubb" then some .bridge
  else if type ∈ ["ugw", "udm", "uxg", "ucg"] then some .gateway
  else if type = "umbb" then some .cellular
  else none

/-- Whether the text starts with one of these beginnings. -/
def startsWithAny (text : String) (beginnings : List String) : Bool :=
  beginnings.any fun beginning => beginning.toList.isPrefixOf text.toList

/-- The kind of device that the beginning of a model name tells. -/
def kindOfModel (model : String) : DeviceKind :=
  let model := Text.asciiUpper model
  if startsWithAny model ["U5G", "UMBB"] then .cellular
  else if startsWithAny model ["USW"] then .switch
  else if startsWithAny model ["UAP", "U6", "U7"] then .accessPoint
  else if startsWithAny model ["UDM", "UCG", "UXG", "UDR", "UGW"] then .gateway
  else .other

/-- The device of a row. Its MAC address stands in for a missing id or name. -/
def device? (row : Json) : Option Device :=
  (text? row "mac").map fun address =>
    let mac := Text.asciiLower address
    let model := text? row "model"
    { id := (rowId? row).getD mac
      mac := mac
      name := (text? row "name").getD mac
      model := model
      kind := (((text? row "type").bind kindOfType?).or (model.map kindOfModel)).getD .other
      ip := (text? row "ip").bind Net.Address.parse? }

/-- The devices of a document. -/
def devices (doc : Json) : List Device := (items doc).filterMap device?

/-! ## Zones -/

/-- The zone of a row. A row with an action is a rule and no zone. -/
def zone? (row : Json) : Option Zone := do
  let id ← rowId? row
  let name := text? row "name"
  let key := (text? row "zone_key").or (text? row "key")
  if (name.isNone && key.isNone) || row.has "action" then none
  else some ⟨id, name.getD "", key, labels row "network_ids"⟩

/-- The zones that an item brings: those it embeds, none of a device, or itself. -/
def itemZones (item : Json) : List Zone :=
  if item.has "firewall_zones" then (rows item "firewall_zones").filterMap zone?
  else if item.has "mac" then []
  else (zone? item).toList

/-- The zones of a document. -/
def zones (doc : Json) : List Zone := (items doc).flatMap itemZones

/-! ## Groups -/

/-- The group of a row. -/
def group? (row : Json) : Option Group := do
  let id ← rowId? row
  let type ← GroupType.ofId? (← text? row "group_type")
  some ⟨id, (text? row "name").getD "", type, labels row "group_members"⟩

/-- The groups of a document. -/
def groups (doc : Json) : List Group := (items doc).filterMap group?

/-! ## Port forwards -/

/-- The port forward of a row. -/
def portForward? (row : Json) : Option PortForward :=
  (rowId? row).map fun id =>
    { id := id
      name := (text? row "name").getD ""
      enabled := (flag? row "enabled").getD true
      forwardIp := (text? row "fwd").bind Net.Address.parse?
      forwardPort := label? row "fwd_port"
      destinationPort := label? row "dst_port"
      protocol := Text.asciiLower ((text? row "proto").getD "tcp_udp")
      source := (text? row "src").filter fun source => !Text.sameAsciiFold source "any" }

/-- The port forwards of a document. -/
def portForwards (doc : Json) : List PortForward := (items doc).filterMap portForward?

/-! ## Settings of the gateway -/

/-- Whether the section of the gateway switches UPnP on. -/
def upnp (doc : Json) : Bool :=
  (items doc).any fun row => text? row "key" == some "usg" && isOn row "upnp_enabled"

end SiteAudit.Export

import SiteAudit.Net.Address

/-!
# Devices

The hardware that a controller has adopted.
-/

namespace SiteAudit

/-- The role of a device. -/
inductive DeviceKind where
  | gateway
  | switch
  | accessPoint
  | bridge
  | cellular
  | other
deriving Repr, DecidableEq

namespace DeviceKind

/-- Every kind of device. -/
def all : List DeviceKind := [gateway, switch, accessPoint, bridge, cellular, other]

/-- The identifier of a kind of device. -/
def id : DeviceKind → String
  | gateway => "Gateway"
  | switch => "Switch"
  | accessPoint => "AccessPoint"
  | bridge => "Bridge"
  | cellular => "Cellular"
  | other => "Other"

/-- The kind of device with exactly this identifier. -/
def ofId? (id : String) : Option DeviceKind := all.find? (·.id == id)

/-- The kind of device in words. -/
def label : DeviceKind → String
  | gateway => "Gateway"
  | switch => "Switch"
  | accessPoint => "Access point"
  | bridge => "Bridge"
  | cellular => "Cellular modem"
  | other => "Device"

/-- Whether devices of this kind belong on the management network. Gateways own every VLAN. -/
def isManaged (kind : DeviceKind) : Bool :=
  kind == switch || kind == accessPoint || kind == bridge

theorem ofId_id (kind : DeviceKind) : ofId? kind.id = some kind := by cases kind <;> decide

end DeviceKind

/-- An adopted device. -/
structure Device where
  id : String
  mac : String
  name : String
  model : Option String
  kind : DeviceKind
  ip : Option Net.Address
deriving Repr, DecidableEq

end SiteAudit

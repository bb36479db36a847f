import SiteAudit.Export.Inventory
import SiteAudit.Export.Networks
import SiteAudit.Export.Rules

/-!
# Sites

A site is everything an audit looks at: rules, networks, zones, devices, port
forwards, and whether UPnP is on. It is read from the documents that a
controller exports, once; no check changes it.
-/

namespace SiteAudit

/-- Everything an audit looks at. -/
structure Site where
  rules : List Rule
  networks : List Network
  zones : ZoneTable
  devices : List Device
  portForwards : List PortForward
  upnp : Bool
deriving DecidableEq

/-- The exported documents of a site. Only the first is always there. -/
structure SiteDocuments where
  devices : Json
  networks : Option Json
  groups : Option Json
  zones : Option Json
  portForwards : Option Json
  settings : Option Json

namespace Site

/-- A site of rules and networks, and nothing else. -/
def ofRules (rules : List Rule) (networks : List Network) : Site :=
  ⟨rules, networks, ⟨[]⟩, [], [], false⟩

/--
The site of a set of documents. Without a document of their own, networks and zones are the ones
embedded among the devices.
-/
def ofDocuments (docs : SiteDocuments) : Site where
  rules := Export.rules (.ofList (docs.groups.elim [] Export.groups)) docs.devices
  networks := Export.networks (docs.networks.getD docs.devices)
  zones := ⟨Export.zones (docs.zones.getD docs.devices)⟩
  devices := Export.devices docs.devices
  portForwards := docs.portForwards.elim [] Export.portForwards
  upnp := docs.settings.any Export.upnp

/-- The first network with an id. -/
def network? (site : Site) (id : String) : Option Network :=
  site.networks.find? (·.id == id)

/-- The network of an id, or else the first of a name; ASCII letter case of the name is free. -/
def findNetwork? (site : Site) (key : String) : Option Network :=
  (site.network? key).or (site.networks.find? fun n => Text.sameAsciiFold n.name key)

/-- The first network whose subnet has an address. -/
def networkOf? (site : Site) (a : Net.Address) : Option Network :=
  site.networks.find? (·.contains a)

/-- Whether there is a modem for mobile networks. -/
def hasCellular (site : Site) : Bool := site.devices.any (·.kind == .cellular)

/-- The rules in force that were written by users. -/
def userRules (site : Site) : List Rule := site.rules.filter Rule.isUserRule

/-- The networks for management. -/
def managementNetworks (site : Site) : List Network :=
  site.networks.filter (·.purpose == .management)

/-- Whether a side of a rule names an external zone. -/
def isExternal (site : Site) (e : Endpoint) : Bool := site.zones.isExternal e.zone

/-- Whether a side of a rule names a gateway zone. -/
def isGateway (site : Site) (e : Endpoint) : Bool := site.zones.isGateway e.zone

end Site

end SiteAudit

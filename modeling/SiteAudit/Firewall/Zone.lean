import SiteAudit.Text.Ascii

/-!
# Firewall zones

A zone is a named group of networks. Two kinds matter to an audit: the
external zone, which is the internet, and the gateway zone. A zone has the
kind that its key names; only a zone without a key goes by its name.
-/

namespace SiteAudit

/-- A firewall zone. -/
structure Zone where
  id : String
  name : String
  key : Option String
  networks : List String
deriving Repr, DecidableEq

namespace Zone

/-- Whether the key, or without one the name, is this word up to ASCII letter case. -/
def isKind (z : Zone) (word : String) : Bool := Text.sameAsciiFold (z.key.getD z.name) word

/-- Whether the zone is the internet. -/
def isExternal (z : Zone) : Bool := z.isKind "external"

/-- Whether the zone is the gateway itself. -/
def isGateway (z : Zone) : Bool := z.isKind "gateway"

end Zone

/-- The zones of a site. -/
structure ZoneTable where
  zones : List Zone
deriving Repr, DecidableEq

namespace ZoneTable

/-- The first zone with an id. -/
def get? (table : ZoneTable) (id : String) : Option Zone := table.zones.find? (·.id == id)

/-- Whether the id, if there is one, is that of an external zone. -/
def isExternal (table : ZoneTable) (id : Option String) : Bool :=
  (id.bind table.get?).any Zone.isExternal

/-- Whether the id, if there is one, is that of a gateway zone. -/
def isGateway (table : ZoneTable) (id : Option String) : Bool :=
  (id.bind table.get?).any Zone.isGateway

/-- The first zone that lists a network. -/
def owner? (table : ZoneTable) (network : String) : Option Zone :=
  table.zones.find? (·.networks.contains network)

end ZoneTable

end SiteAudit

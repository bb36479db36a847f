import SiteAudit.Firewall.Group
import SiteAudit.Firewall.Rule
import SiteAudit.Firewall.Zone
import SiteAudit.Record.Fields

/-!
# Stored rules, zones and groups

How the parts of a firewall are written as JSON, field by field in a fixed
order, and how they are read again.

A target is an object whose `kind` says which other fields it has.
-/

namespace SiteAudit

open Record

/-! ## Parts of rules -/

/-- The identifier of an action. -/
def Action.id : Action → String
  | .allow => "Allow"
  | .block => "Block"
  | .unknown => "Unknown"

/-- The action with exactly this identifier. -/
def Action.ofId? (id : String) : Option Action := [.allow, .block, .unknown].find? (·.id == id)

/-- A protocol as JSON: its name. -/
def Protocol.toJson (p : Protocol) : Json := .string p.name

/-- The protocol that a text names, in any spelling. -/
def Protocol.ofJson? (value : Json) : Option Protocol := (text? value).map Protocol.parse

/-- A target as JSON. -/
def Target.toJson : Target → Json
  | .any => .object [("kind", .string "any")]
  | .network ids inverted =>
    .object [("kind", .string "network"), ("ids", .strings ids),
      ("match_opposite", .bool inverted)]
  | .ip entries inverted =>
    .object [("kind", .string "ip"), ("addrs", .strings entries),
      ("match_opposite", .bool inverted)]
  | .client macs => .object [("kind", .string "client"), ("macs", .strings macs)]
  | .web domains => .object [("kind", .string "web"), ("domains", .strings domains)]
  | .app ids => .object [("kind", .string "app"), ("ids", .list Json.int ids)]
  | .appCategory ids => .object [("kind", .string "app_category"), ("ids", .list Json.int ids)]
  | .unsupported name => .object [("kind", .string "unsupported"), ("raw", .string name)]

/-- The reader of what a kind of target has besides its kind. -/
def Target.fieldsOf (kind : String) : FieldReader Target :=
  if kind = "any" then pure .any
  else if kind = "network" then do
    let ids ← required "ids" (list? text?)
    return .network ids (← required "match_opposite" bool?)
  else if kind = "ip" then do
    let entries ← required "addrs" (list? text?)
    return .ip entries (← required "match_opposite" bool?)
  else if kind = "client" then return .client (← required "macs" (list? text?))
  else if kind = "web" then return .web (← required "domains" (list? text?))
  else if kind = "app" then return .app (← required "ids" (list? int?))
  else if kind = "app_category" then return .appCategory (← required "ids" (list? int?))
  else if kind = "unsupported" then return .unsupported (← required "raw" text?)
  else failure

/-- The target that a value stores. -/
def Target.ofJson? : Json → Option Target :=
  record do Target.fieldsOf (← required "kind" text?)

/-- A side of a rule as JSON. -/
def Endpoint.toJson (e : Endpoint) : Json :=
  .object
    [("target", e.target.toJson),
      ("zone_id", .ofOption .string e.zone),
      ("port", .ofOption .string e.port),
      ("match_opposite_ports", .bool e.invertPorts)]

/-- The side of a rule that a value stores. -/
def Endpoint.ofJson? : Json → Option Endpoint :=
  record do
    let target ← required "target" Target.ofJson?
    let zone ← optional "zone_id" text?
    let port ← optional "port" text?
    let invertPorts ← required "match_opposite_ports" bool?
    return { target, zone, port, invertPorts }

/-! ## Rules -/

/-- A rule as JSON. -/
def Rule.toJson (r : Rule) : Json :=
  .object
    [("id", .string r.id),
      ("name", .string r.name),
      ("action", .string r.action.id),
      ("enabled", .bool r.enabled),
      ("predefined", .bool r.predefined),
      ("index", .int r.index),
      ("protocol", r.protocol.protocol.toJson),
      ("match_opposite_protocol", .bool r.protocol.inverted),
      ("connection_state_type", .string r.stateType.id),
      ("connection_states", .strings r.states.entries),
      ("source", r.source.toJson),
      ("destination", r.destination.toJson),
      ("ruleset", .ofOption .string r.ruleset),
      ("hit_count", .ofOption .nat r.hitCount)]

/-- The rule that a value stores. -/
def Rule.ofJson? : Json → Option Rule :=
  record do
    let id ← required "id" text?
    let name ← required "name" text?
    let action ← required "action" fun value => (caseName? value).bind Action.ofId?
    let enabled ← required "enabled" bool?
    let predefined ← required "predefined" bool?
    let index ← required "index" int?
    let protocol ← required "protocol" Protocol.ofJson?
    let inverted ← required "match_opposite_protocol" bool?
    let stateType ← required "connection_state_type" fun value =>
      (caseName? value).bind StateType.ofId?
    let states ← required "connection_states" (list? text?)
    let source ← required "source" Endpoint.ofJson?
    let destination ← required "destination" Endpoint.ofJson?
    let ruleset ← optional "ruleset" text?
    let hitCount ← optional "hit_count" uint64?
    return { id, name, action, enabled, predefined, index, protocol := ⟨protocol, inverted⟩,
             stateType, states := .ofList states, source, destination, ruleset, hitCount }

/-! ## Zones and groups -/

/-- A zone as JSON. -/
def Zone.toJson (z : Zone) : Json :=
  .object
    [("id", .string z.id),
      ("name", .string z.name),
      ("zone_key", .ofOption .string z.key),
      ("network_ids", .strings z.networks)]

/-- The zone that a value stores. -/
def Zone.ofJson? : Json → Option Zone :=
  record do
    let id ← required "id" text?
    let name ← required "name" text?
    let key ← optional "zone_key" text?
    let networks ← required "network_ids" (list? text?)
    return { id, name, key, networks }

/-- The zones of a site as JSON. -/
def ZoneTable.toJson (table : ZoneTable) : Json :=
  .object [("zones", .list Zone.toJson table.zones)]

/-- The zones of a site that a value stores. -/
def ZoneTable.ofJson? : Json → Option ZoneTable :=
  record do return ⟨← required "zones" (list? Zone.ofJson?)⟩

/-- A group as JSON. -/
def Group.toJson (g : Group) : Json :=
  .object
    [("id", .string g.id),
      ("name", .string g.name),
      ("group_type", .string g.type.id),
      ("members", .strings g.members)]

/-- The group that a value stores. -/
def Group.ofJson? : Json → Option Group :=
  record do
    let id ← required "id" text?
    let name ← required "name" text?
    let type ← required "group_type" fun value => (caseName? value).bind GroupType.ofId?
    let members ← required "members" (list? text?)
    return { id, name, type, members }

end SiteAudit

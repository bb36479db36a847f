import SiteAudit.Export.Field
import SiteAudit.Firewall.Group
import SiteAudit.Firewall.Rule

/-!
# Rules in exported documents

Controllers store firewall rules in two dialects. A flat row keeps both sides
in fields of its own, `src_...` and `dst_...`; a policy nests them as
`source` and `destination`. References to groups are resolved while a side
is read, so that a rule only holds ports and addresses.

A rule row without an identifier is left out. Everything else that cannot be
read is replaced by a default.

## Main results

* `rules_append` — the rules of two lists of items, one after the other.
-/

namespace SiteAudit.Export

/-! ## Sides -/

/-- What the fields of one side say, before the target is told from them. -/
structure Side where
  target : Option String
  networks : List String
  addresses : List String
  macs : List String
  domains : List String
  apps : List Int
  appCategories : List Int
  zone : Option String
  port : Option String
  invertNetworks : Bool
  invertAddresses : Bool
  invertPorts : Bool

namespace Side

/-- A side without any field. -/
def empty : Side :=
  ⟨none, [], [], [], [], [], [], none, none, false, false, false⟩

/-- The target with a given name. -/
def namedTarget (s : Side) (name : String) : Target :=
  if name = "ANY" then .any
  else if name = "NETWORK" then .network s.networks s.invertNetworks
  else if name = "IP" then .ip s.addresses s.invertAddresses
  else if name ∈ ["CLIENT", "MAC"] then .client s.macs
  else if name ∈ ["WEB", "DOMAIN"] then .web s.domains
  else if name = "APP" then .app s.apps
  else if name = "APP_CATEGORY" then .appCategory s.appCategories
  else .unsupported name

/-- The target of a side that does not name one: the first kind of which something is listed. -/
def impliedTarget (s : Side) : Target :=
  if !s.networks.isEmpty then .network s.networks s.invertNetworks
  else if !s.addresses.isEmpty then .ip s.addresses s.invertAddresses
  else if !s.macs.isEmpty then .client s.macs
  else if !s.domains.isEmpty then .web s.domains
  else if !s.apps.isEmpty then .app s.apps
  else if !s.appCategories.isEmpty then .appCategory s.appCategories
  else .any

/-- The side of a rule that the fields describe. -/
def endpoint (s : Side) : Endpoint where
  target := match s.target with
    | some name => s.namedTarget (Text.asciiUpper name)
    | none => s.impliedTarget
  zone := s.zone
  port := s.port
  invertPorts := s.invertPorts

end Side

/-- The list with the texts that it does not hold yet at its end. -/
def pushUnique (list texts : List String) : List String :=
  texts.foldl (fun found text => if found.contains text then found else found ++ [text]) list

/-! ## Fields of both dialects -/

/-- The state type that a row names, with the states it lists. -/
def namedStates? (row : Json) : Option (StateType × Text.NameSet) := do
  let type ← StateType.parse? (← text? row "connection_state_type")
  some (type, .ofList ((labels row "connection_states").map Text.asciiUpper))

/-- The connection states for which a row has a switch of its own, `state_new` and so on. -/
def switchedStates (row : Json) : List String :=
  connectionStates.filter fun state => isOn row ("state_" ++ Text.asciiLower state)

/--
The states of a row with switches: no switch, or all of them, is every state; `established` and
`related` alone let answers pass.
-/
def statesOfSwitches (row : Json) : StateType × Text.NameSet :=
  let states := switchedStates row
  if states.isEmpty || states.length == connectionStates.length then
    (.all, Text.Sorted.empty)
  else if states.all fun state => state == "ESTABLISHED" || state == "RELATED" then
    (.respondOnly, .ofList states)
  else (.custom, .ofList states)

/-- The state type and the states of a row. -/
def states (row : Json) : StateType × Text.NameSet :=
  (namedStates? row).getD (statesOfSwitches row)

/-- A rule from the fields that both dialects share and those they differ in. -/
def rule? (row : Json) (index : Int) (inverted : Bool) (source destination : Side)
    (ruleset : Option String) : Option Rule :=
  (rowId? row).map fun id =>
    { id := id
      name := (text? row "name").getD ""
      action := (text? row "action").elim .unknown Action.parse
      enabled := (flag? row "enabled").getD true
      predefined := isOn row "predefined"
      index := index
      protocol := ⟨(text? row "protocol").elim .all Protocol.parse, inverted⟩
      stateType := (states row).1
      states := (states row).2
      source := source.endpoint
      destination := destination.endpoint
      ruleset := ruleset
      hitCount := ((integer? row "hit_count").filter (0 ≤ ·)).map Int.toNat }

/-! ## Flat rows -/

/-- What the groups that a side refers to add: addresses, and a port where there is none yet. -/
def addGroup (groups : GroupTable) (s : Side) (id : String) : Side :=
  match groups.addresses? id with
  | some addresses => { s with addresses := pushUnique s.addresses addresses }
  | none => { s with port := s.port.or (groups.ports? id) }

/-- One side of a flat row; `side` is the first part of its field names. -/
def flatSide (groups : GroupTable) (row : Json) (side : String) : Side :=
  let key (name : String) := side ++ "_" ++ name
  let one (name : String) := (label? row (key name)).toList
  let many (name : String) := labels row (key name)
  let own : Side :=
    { target := text? row (key "matching_target")
      networks := [many "network_ids", one "network_id", one "networkconf_id"].foldl pushUnique []
      addresses := [many "ips", one "address"].foldl pushUnique []
      macs := [many "mac_addresses", one "mac_address"].foldl pushUnique []
      domains := many "web_domains"
      apps := []
      appCategories := []
      zone := text? row (key "zone_id")
      port := label? row (key "port")
      invertNetworks := isOn row (key "match_opposite_networks")
      invertAddresses := isOn row (key "match_opposite_ips")
      invertPorts := isOn row (key "match_opposite_ports") }
  (many "firewallgroup_ids").foldl (addGroup groups) own

/-- The rule of a flat row. -/
def flatRule? (groups : GroupTable) (row : Json) : Option Rule :=
  rule? row
    (((integer? row "rule_index").or (integer? row "index")).getD 0)
    (((flag? row "protocol_match_excepted").or (flag? row "match_opposite_protocol")).getD false)
    (flatSide groups row "src") (flatSide groups row "dst") (text? row "ruleset")

/-! ## Policies -/

/-- The port of a side of a policy. A port group that does not resolve means every port. -/
def policyPort? (groups : GroupTable) (side : Json) : Option String :=
  let type := (text? side "port_matching_type").map Text.asciiUpper
  if type = some "ANY" then none
  else if type = some "OBJECT" then (text? side "port_group_id").bind groups.ports?
  else label? side "port"

/-- One side of a policy. What is no object has no fields. -/
def policySide (groups : GroupTable) (side : Json) : Side :=
  if side.isObject then
    let grouped := ((text? side "ip_group_id").bind groups.addresses?).getD []
    { target := text? side "matching_target"
      networks := labels side "network_ids"
      addresses := pushUnique (labels side "ips") grouped
      macs := labels side "client_macs"
      domains := labels side "web_domains"
      apps := integers side "app_ids"
      appCategories := integers side "app_category_ids"
      zone := text? side "zone_id"
      port := policyPort? groups side
      invertNetworks := isOn side "match_opposite_networks"
      invertAddresses := isOn side "match_opposite_ips"
      invertPorts := isOn side "match_opposite_ports" }
  else Side.empty

/-- The rule of a policy. -/
def policyRule? (groups : GroupTable) (row : Json) : Option Rule :=
  let side (key : String) := policySide groups ((row.get? key).getD .null)
  rule? row
    (((integer? row "index").or (integer? row "rule_index")).getD 0)
    (isOn row "match_opposite_protocol")
    (side "source") (side "destination") none

/-! ## Documents -/

/-- Whether the row nests a side, as policies do. -/
def isPolicy (row : Json) : Bool :=
  ((row.get? "source").any Json.isObject) || ((row.get? "destination").any Json.isObject)

/-- The rule of a row in either dialect. -/
def rowRule? (groups : GroupTable) (row : Json) : Option Rule :=
  if isPolicy row then policyRule? groups row else flatRule? groups row

/-- The rules that an item embeds, in three arrays. -/
def embeddedRules (groups : GroupTable) (item : Json) : List Rule :=
  (rows item "firewall_rules").filterMap (rowRule? groups) ++
    (rows item "policies").filterMap (policyRule? groups) ++
    (rows item "firewall_policies").filterMap (policyRule? groups)

/-- The device types of gateways, in small letters. -/
def gatewayTypes : List String := ["ugw", "udm", "uxg", "ucg"]

/-- Whether the item is a gateway by its type. -/
def isGatewayItem (item : Json) : Bool :=
  (text? item "type").any fun type => gatewayTypes.contains (Text.asciiLower type)

/-- Whether the item has one of the arrays that embed rules. -/
def embedsRules (item : Json) : Bool :=
  item.has "firewall_rules" || item.has "policies" || item.has "firewall_policies"

/--
The rules of one item: those a gateway embeds, none of any other device, those that an item
without a type embeds, or the rule that the item itself is.
-/
def itemRules (groups : GroupTable) (item : Json) : List Rule :=
  if isGatewayItem item then embeddedRules groups item
  else if (text? item "type").isSome && item.has "mac" then []
  else if embedsRules item then embeddedRules groups item
  else (rowRule? groups item).toList

/-- The rules of a document, in its order. -/
def rules (groups : GroupTable) (doc : Json) : List Rule := (items doc).flatMap (itemRules groups)

/-- The rules of two lists of items, one after the other. -/
theorem rules_append (groups : GroupTable) (front back : List Json) :
    rules groups (.array (front ++ back)) =
      rules groups (.array front) ++ rules groups (.array back) := by
  simp [rules, items]

end SiteAudit.Export

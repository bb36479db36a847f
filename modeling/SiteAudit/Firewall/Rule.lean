import SiteAudit.Firewall.Protocol
import SiteAudit.Firewall.Ports
import SiteAudit.Text.Sorted

/-!
# Firewall rules

One type of rule for both ways in which a controller stores them. A rule has
an action, an index that orders it among the others, and two sides; each
side selects traffic by a target, a zone and a port specification.

## Main results

* `matchesNew_eq_true_iff`, `blocksNew_eq_true_iff` — which rules match fresh
  connections, and which block them.
-/

namespace SiteAudit

/-- What a rule does with the traffic it matches. An unknown action does nothing. -/
inductive Action where
  | allow
  | block
  | unknown
deriving Repr, DecidableEq

namespace Action

/-- The action of a controller's verb; blanks and ASCII letter case do not count. -/
def parse (text : String) : Action :=
  let verb := Text.asciiLower (Text.trim text)
  if verb ∈ ["allow", "accept"] then .allow
  else if verb ∈ ["drop", "block", "reject", "deny"] then .block
  else .unknown

/-- The action that undoes this one; an unknown action has none. -/
def opposite? : Action → Option Action
  | .allow => some .block
  | .block => some .allow
  | .unknown => none

/-- The action in small letters. -/
def text : Action → String
  | .allow => "allow"
  | .block => "block"
  | .unknown => "unknown"

end Action

/-- Which connection states a rule applies to. -/
inductive StateType where
  | all
  | respondOnly
  | custom
deriving Repr, DecidableEq

namespace StateType

/-- The identifier of a state type. -/
def id : StateType → String
  | .all => "ALL"
  | .respondOnly => "RESPOND_ONLY"
  | .custom => "CUSTOM"

/-- The state type with exactly this identifier. -/
def ofId? (id : String) : Option StateType := [all, respondOnly, custom].find? (·.id == id)

/-- The state type of a text; blanks and ASCII letter case do not count. -/
def parse? (text : String) : Option StateType := ofId? (Text.asciiUpper (Text.trim text))

end StateType

/-- The four connection states. -/
def connectionStates : List String := ["NEW", "ESTABLISHED", "RELATED", "INVALID"]

/-- What a side of a rule selects. -/
inductive Target where
  | any
  | network (ids : List String) (inverted : Bool)
  | ip (entries : List String) (inverted : Bool)
  | client (macs : List String)
  | web (domains : List String)
  | app (ids : List Int)
  | appCategory (ids : List Int)
  | unsupported (name : String)
deriving Repr, DecidableEq

/-- The name of the kind of target, in capitals as controllers write it. -/
def Target.label : Target → String
  | .any => "ANY"
  | .network .. => "NETWORK"
  | .ip .. => "IP"
  | .client _ => "CLIENT"
  | .web _ => "WEB"
  | .app _ => "APP"
  | .appCategory _ => "APP_CATEGORY"
  | .unsupported name => name

/-- One side of a rule. Without a port specification it selects every port. -/
structure Endpoint where
  target : Target
  zone : Option String
  port : Option String
  invertPorts : Bool
deriving Repr, DecidableEq

namespace Endpoint

/-- The side that selects everything. -/
def everything : Endpoint := ⟨.any, none, none, false⟩

/-- Whether any target is selected. -/
def isAny (e : Endpoint) : Bool := e.target == .any

/-- The networks named by the target. -/
def networkIds (e : Endpoint) : List String :=
  match e.target with
  | .network ids _ => ids
  | _ => []

/-- The addresses named by the target. -/
def addresses (e : Endpoint) : List String :=
  match e.target with
  | .ip entries _ => entries
  | _ => []

/-- The web domains named by the target. -/
def domains (e : Endpoint) : List String :=
  match e.target with
  | .web domains => domains
  | _ => []

/-- Whether the side selects a port, given as text. -/
def includesPort (e : Endpoint) (port : String) : Bool :=
  match e.port with
  | none => true
  | some spec => PortSpec.includes spec port != e.invertPorts

/-- An exclamation mark where something is inverted. -/
def bang (inverted : Bool) : String := if inverted then "!" else ""

/-- Texts with commas between them. -/
def commas (texts : List String) : String := Text.joinWith "," texts

/-- The side in one line: target, zone and port. -/
def summary (e : Endpoint) : String :=
  let target := match e.target with
    | .any => "any"
    | .network ids inverted => bang inverted ++ "net:" ++ commas ids
    | .ip entries inverted => bang inverted ++ "ip:" ++ commas entries
    | .client macs => "mac:" ++ commas macs
    | .web domains => "web:" ++ commas domains
    | .app ids => "app:" ++ commas (ids.map Numeral.signedDecimal)
    | .appCategory ids => "app-cat:" ++ commas (ids.map Numeral.signedDecimal)
    | .unsupported name => "(" ++ name ++ ")"
  let zone := e.zone.map ("zone:" ++ ·)
  let port := e.port.map fun spec => bang e.invertPorts ++ "port:" ++ spec
  Text.joinWith " " (target :: zone.toList ++ port.toList)

end Endpoint

/-- A firewall rule. -/
structure Rule where
  id : String
  name : String
  action : Action
  enabled : Bool
  /-- Generated by the controller rather than written by a user. -/
  predefined : Bool
  index : Int
  protocol : ProtocolMatch
  stateType : StateType
  /-- Names of connection states, which count only where the state type is `custom`. -/
  states : Text.NameSet
  source : Endpoint
  destination : Endpoint
  ruleset : Option String
  hitCount : Option Nat
deriving DecidableEq

namespace Rule

/-- Whether the rule allows what it matches. -/
def isAllow (r : Rule) : Bool := r.action == .allow

/-- Whether the rule blocks what it matches. -/
def isBlock (r : Rule) : Bool := r.action == .block

/-- Whether the rule is in force and was written by a user. -/
def isUserRule (r : Rule) : Bool := r.enabled && !r.predefined

/-- Whether the controller has counted traffic that the rule matched. -/
def hasBeenHit (r : Rule) : Bool :=
  match r.hitCount with
  | some count => 0 < count
  | none => false

/-- The connection states the rule applies to. -/
def stateNames (r : Rule) : List String :=
  match r.stateType with
  | .all => connectionStates
  | .respondOnly => ["ESTABLISHED", "RELATED"]
  | .custom => r.states.entries

/-- Whether the rule applies to fresh connections. -/
def matchesNew (r : Rule) : Bool := r.stateNames.contains "NEW"

/-- Whether the rule blocks fresh connections. -/
def blocksNew (r : Rule) : Bool := r.isBlock && r.matchesNew

/-- Whether the rule allows fresh connections. -/
def allowsNew (r : Rule) : Bool := r.isAllow && r.matchesNew

/-- The networks named by the targets of both sides. -/
def networkIds (r : Rule) : List String := r.source.networkIds ++ r.destination.networkIds

/-- Whether the rule matches traffic of the protocol to the destination port. -/
def coversPort (r : Rule) (port : String) (protocol : Protocol) : Bool :=
  r.destination.includesPort port && r.protocol.admits protocol

/-- Whether the rule allows traffic of the protocol to the destination port. -/
def allowsPort (r : Rule) (port : String) (protocol : Protocol) : Bool :=
  r.isAllow && r.coversPort port protocol

/-- Whether the rule blocks traffic of the protocol to the destination port. -/
def blocksPort (r : Rule) (port : String) (protocol : Protocol) : Bool :=
  r.isBlock && r.coversPort port protocol

/-- The rules by index; rules with the same index stay in the order in which they were given. -/
def inOrder (rules : List Rule) : List Rule := rules.mergeSort fun a b => a.index ≤ b.index

/-! ## Laws -/

theorem matchesNew_eq_true_iff {r : Rule} :
    r.matchesNew = true ↔
      r.stateType = .all ∨ r.stateType = .custom ∧ "NEW" ∈ r.states.entries := by
  cases h : r.stateType <;> simp [matchesNew, stateNames, h, connectionStates]

/-- A rule blocks fresh connections if it blocks and its states include new ones. -/
theorem blocksNew_eq_true_iff {r : Rule} :
    r.blocksNew = true ↔ r.action = .block ∧ r.matchesNew = true := by
  simp [blocksNew, isBlock]

theorem inOrder_perm (rules : List Rule) : (inOrder rules).Perm rules := List.mergeSort_perm _ _

end Rule

end SiteAudit

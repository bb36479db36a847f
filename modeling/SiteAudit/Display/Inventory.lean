import SiteAudit.Display.Format
import SiteAudit.Layout.Table
import SiteAudit.Record.Inventory
import SiteAudit.Record.Rule

/-!
# Showing networks and rules

Lists of networks and of rules, one row each. In plain text a network is its
name and a rule its id.
-/

namespace SiteAudit

/-- A truth value in a table. -/
def yesNo (b : Bool) : String := if b then "yes" else "no"

/-- A network as a row of a table. -/
def Network.row (n : Network) : List String :=
  [n.id, n.name, Numeral.decimal n.vlan.toNat, n.purpose.name, n.subnet.elim "" Net.Block.text,
    yesNo n.isolated, yesNo n.internet, yesNo n.dhcp]

/-- Networks as they are shown. -/
def Network.viewOf (networks : List Network) : View where
  table := Layout.Table.text
    ⟨["ID", "Name", "VLAN", "Purpose", "Subnet", "Isolated", "Internet", "DHCP"],
      networks.map Network.row⟩
  value := .list Network.toJson networks
  plain := Text.joinWith "\n" (networks.map Network.name)

/-- A rule as a row of a table. -/
def Rule.row (r : Rule) : List String :=
  [Numeral.signedDecimal r.index, r.id, r.name, r.action.text, yesNo r.enabled,
    r.protocol.summary, r.source.summary, r.destination.summary, yesNo r.predefined,
    yesNo r.hasBeenHit]

/-- Rules as they are shown, in the order in which they are tried. -/
def Rule.viewOf (rules : List Rule) : View :=
  let rules := inOrder rules
  { table := Layout.Table.text
      ⟨["Index", "ID", "Name", "Action", "On", "Proto", "Source", "Destination", "System", "Hit"],
        rules.map Rule.row⟩
    value := .list Rule.toJson rules
    plain := Text.joinWith "\n" (rules.map Rule.id) }

end SiteAudit

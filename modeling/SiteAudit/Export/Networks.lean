import SiteAudit.Export.Field
import SiteAudit.Network.Basic
import SiteAudit.Network.Classification

/-!
# Networks in exported documents

Networks come from a document of their own or from the table that a gateway
embeds among the devices. Uplinks and tunnels are no networks of the site.
Where an id comes up again, the first row counts.

## Main results

* `mem_keepFirst` — every kept row is one of the rows that were read.
-/

namespace SiteAudit.Export

/-- Purposes of uplinks and tunnels. -/
def nonLocalPurposes : List String := ["wan", "remote-user-vpn", "site-vpn", "vpn-client"]

/-- The VLAN of a row: a number from 1 to 65535, or else the native VLAN. -/
def vlan (row : Json) : UInt16 :=
  match integer? row "vlan" with
  | some n => if 0 < n ∧ n < 65536 then UInt16.ofNat n.toNat else 1
  | none => 1

/-- The DNS servers of a row, in up to four fields; what is no address is left out. -/
def dnsServers (row : Json) : List Net.Address :=
  ["dhcpd_dns_1", "dhcpd_dns_2", "dhcpd_dns_3", "dhcpd_dns_4"].filterMap fun key =>
    (text? row key).bind Net.Address.parse?

/-- The network of a row. A row without an id, and one for an uplink or a tunnel, has none. -/
def network? (row : Json) : Option Network := do
  let id ← rowId? row
  let stated := (text? row "purpose").map Text.asciiLower
  if stated.any nonLocalPurposes.contains then none
  else
    let name := (text? row "name").getD ""
    let vlan := vlan row
    let interface := (text? row "ip_subnet").bind Net.Block.parse?
    let isolated := flag? row "network_isolation_enabled"
    let internet := flag? row "internet_access_enabled"
    some
      { id := id
        name := name
        vlan := vlan
        purpose := Purpose.classify name ⟨stated, some vlan, isolated, internet⟩
        statedPurpose := stated
        subnet := interface.map Net.Block.truncated
        gateway := interface.map Net.Block.address
        dhcp := isOn row "dhcpd_enabled"
        dnsServers := dnsServers row
        isolated := isolated.getD false
        internet := internet.getD true
        zone := text? row "firewall_zone_id"
        group := text? row "networkgroup"
        switchRouted := (text? row "gateway_type").any (Text.sameAsciiFold "switch") }

/-- The rows of networks that an item brings: its table, none of a device without one, or itself. -/
def networkRows (item : Json) : List Json :=
  if item.has "network_table" then rows item "network_table"
  else if item.has "mac" then []
  else [item]

/-- Of networks with the same id only the first. -/
def keepFirst (networks : List Network) : List Network :=
  networks.foldl (fun kept n => if kept.any (·.id == n.id) then kept else kept ++ [n]) []

/-- The networks of a document, in its order. -/
def networks (doc : Json) : List Network :=
  keepFirst (((items doc).flatMap networkRows).filterMap network?)

/-! ## Laws -/

/-- Every kept row is one of the rows that were read. -/
theorem mem_keepFirst {networks : List Network} {n : Network} (h : n ∈ keepFirst networks) :
    n ∈ networks := by
  suffices general : ∀ (rest kept : List Network),
      n ∈ rest.foldl (fun kept n => if kept.any (·.id == n.id) then kept else kept ++ [n]) kept →
        n ∈ kept ∨ n ∈ rest by
    simpa using general networks [] h
  intro rest
  induction rest with
  | nil => exact fun kept h => Or.inl h
  | cons a rest ih =>
    intro kept h
    rw [List.foldl_cons] at h
    rcases ih _ h with h | h
    · split at h
      · exact Or.inl h
      · rcases List.mem_append.1 h with h | h
        · exact Or.inl h
        · exact Or.inr (by simp_all)
    · exact Or.inr (List.mem_cons_of_mem _ h)

end SiteAudit.Export

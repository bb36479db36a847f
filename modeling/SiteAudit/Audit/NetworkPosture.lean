import SiteAudit.Finding.Basic
import SiteAudit.Site.Trace

/-!
# Networks set up against their purpose

Sensitive networks and those for things should be isolated, and the
sensitive ones should have no internet access. The native VLAN carries
untagged traffic and cannot follow what is asked of management networks.

## Main results

* `currentNetwork_of_mem` — everything said about a network names it.
-/

namespace SiteAudit.Audit.NetworkPosture

/-- The finding about a network. -/
def about (n : Network) (kind : FindingKind) (message : String) : Finding :=
  Finding.ofKind kind message
    |>.withCurrent n.name n.vlan
    |>.withDetail "network_id" n.id

/-- One finding, if a condition holds. -/
def when (condition : Bool) (found : Finding) : List Finding := if condition then [found] else []

/-- Whether the network is a management network that can be hardened. -/
def isTaggedManagement (n : Network) : Bool := n.purpose == .management && !n.isNative

/-- What a network for security devices lacks. -/
def ofSecurity (site : Site) (n : Network) : List Finding :=
  when (!n.isolated) (about n .securityNetworkNotIsolated
      ("Security network '" ++ n.name ++ "' is not isolated from other networks")) ++
    when (!site.internetBlocked n) (about n .securityNetworkHasInternet
      ("Security network '" ++ n.name ++ "' has internet access"))

/-- What a management network lacks. -/
def ofManagement (site : Site) (n : Network) : List Finding :=
  when (!n.isolated) (about n .mgmtNetworkNotIsolated
      ("Management network '" ++ n.name ++ "' is not isolated from other networks")) ++
    when (!site.internetBlocked n) (about n .mgmtNetworkHasInternet
      ("Management network '" ++ n.name ++ "' has unrestricted internet access")) ++
    when n.dhcp (about n .mgmtDhcpEnabled
      ("Management network '" ++ n.name ++ "' hands out DHCP leases"))

/-- What a network for things lacks. -/
def ofThings (n : Network) : List Finding :=
  when (!n.isolated) (about n .iotNetworkNotIsolated
    ("IoT network '" ++ n.name ++ "' is not isolated from other networks"))

/-- What a network lacks for its purpose. -/
def byPurpose (site : Site) (n : Network) : List Finding :=
  match n.purpose with
  | .security => ofSecurity site n
  | .management => if n.isNative then [] else ofManagement site n
  | .iot => ofThings n
  | _ => []

/-- The DNS servers of a network that are not in it but in another network of the site. -/
def foreignDnsServers (site : Site) (n : Network) : List Net.Address :=
  n.dnsServers.filter fun server =>
    !n.contains server && site.networks.any fun other => other.id != n.id && other.contains server

/-- DNS servers that an isolated network shares with others. -/
def sharedDns (site : Site) (n : Network) : List Finding :=
  let servers := foreignDnsServers site n
  let list := Text.joinWith ", " (servers.map Net.Address.text)
  when (n.isolated && !servers.isEmpty)
    ((about n .dnsSharedServers
        ("Isolated network '" ++ n.name ++ "' uses DNS servers on other networks: " ++ list))
      |>.withDetail "dns_servers" list)

/-- Whether the gateway firewall is meant to stand between a network and the others. -/
def isSegmented (n : Network) : Bool :=
  n.purpose == .security || n.purpose == .iot || n.purpose == .guest || isTaggedManagement n

/-- Routing around the gateway firewall. -/
def routedAround (n : Network) : List Finding :=
  when (isSegmented n && n.switchRouted) (about n .routingEnabled
    ("Network '" ++ n.name ++
      "' is routed by a layer-3 switch, bypassing the gateway firewall"))

/-- What is to be said about a network. -/
def ofNetwork (site : Site) (n : Network) : List Finding :=
  byPurpose site n ++ sharedDns site n ++ routedAround n

/-- Networks that are set up against their purpose. -/
def findings (site : Site) : List Finding := site.networks.flatMap (ofNetwork site)

/-! ## Laws -/

theorem mem_when {condition : Bool} {f found : Finding} :
    f ∈ when condition found ↔ condition = true ∧ f = found := by
  cases condition <;> simp [when]

/-- Everything said about a network names it. -/
theorem currentNetwork_of_mem {site : Site} {n : Network} {f : Finding}
    (h : f ∈ ofNetwork site n) : f.currentNetwork = some n.name := by
  simp only [ofNetwork, byPurpose, List.mem_append] at h
  rcases h with (h | h) | h
  · split at h
    · simp only [ofSecurity, List.mem_append, mem_when] at h
      rcases h with h | h <;> exact h.2 ▸ rfl
    · split at h
      · simp at h
      · simp only [ofManagement, List.mem_append, mem_when] at h
        rcases h with (h | h) | h <;> exact h.2 ▸ rfl
    · simp only [ofThings, mem_when] at h
      exact h.2 ▸ rfl
    · simp at h
  · simp only [sharedDns, mem_when] at h
    exact h.2 ▸ rfl
  · simp only [routedAround, mem_when] at h
    exact h.2 ▸ rfl

end SiteAudit.Audit.NetworkPosture

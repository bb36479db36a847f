import SiteAudit.Finding.Severity

/-!
# Kinds of findings

Every finding has one of twenty-six kinds. The code of a kind is what other
programs rely on. A kind has a severity and a number of points that it takes
off the security score; some checks set others for a single finding.

## Main results

* `impact_eq_zero_iff` — exactly the informational kinds cost no points.
* `ofCode_code` — codes tell kinds apart.
-/

namespace SiteAudit

/-- What a finding is about. -/
inductive FindingKind where
  | permissiveRule
  | broadRule
  | orphanedRule
  | denyShadowsAllow
  | allowSubvertsDeny
  | allowExceptionPattern
  | missingIsolation
  | isolationBypassed
  | internetBlockBypassed
  | networkIsolationException
  | infraNotOnMgmt
  | mgmtMissingUnifiAccess
  | mgmtMissingAfcAccess
  | mgmtMissingNtpAccess
  | mgmtMissing5gAccess
  | securityNetworkNotIsolated
  | mgmtNetworkNotIsolated
  | iotNetworkNotIsolated
  | securityNetworkHasInternet
  | mgmtNetworkHasInternet
  | dnsSharedServers
  | mgmtDhcpEnabled
  | routingEnabled
  | upnpEnabled
  | portForwardToIsolated
  | portForwardUnrestricted
deriving Repr, DecidableEq

namespace FindingKind

/-- Every kind of finding. -/
def all : List FindingKind :=
  [permissiveRule, broadRule, orphanedRule, denyShadowsAllow, allowSubvertsDeny,
    allowExceptionPattern, missingIsolation, isolationBypassed, internetBlockBypassed,
    networkIsolationException, infraNotOnMgmt, mgmtMissingUnifiAccess, mgmtMissingAfcAccess,
    mgmtMissingNtpAccess, mgmtMissing5gAccess, securityNetworkNotIsolated,
    mgmtNetworkNotIsolated, iotNetworkNotIsolated, securityNetworkHasInternet,
    mgmtNetworkHasInternet, dnsSharedServers, mgmtDhcpEnabled, routingEnabled, upnpEnabled,
    portForwardToIsolated, portForwardUnrestricted]

/-- The code of a kind of finding. -/
def code : FindingKind → String
  | permissiveRule => "PERMISSIVE_RULE"
  | broadRule => "BROAD_RULE"
  | orphanedRule => "ORPHANED_RULE"
  | denyShadowsAllow => "DENY_SHADOWS_ALLOW"
  | allowSubvertsDeny => "ALLOW_SUBVERTS_DENY"
  | allowExceptionPattern => "ALLOW_EXCEPTION_PATTERN"
  | missingIsolation => "MISSING_ISOLATION"
  | isolationBypassed => "ISOLATION_BYPASSED"
  | internetBlockBypassed => "INTERNET_BLOCK_BYPASSED"
  | networkIsolationException => "NETWORK_ISOLATION_EXCEPTION"
  | infraNotOnMgmt => "INFRA_NOT_ON_MGMT"
  | mgmtMissingUnifiAccess => "MGMT_MISSING_UNIFI_ACCESS"
  | mgmtMissingAfcAccess => "MGMT_MISSING_AFC_ACCESS"
  | mgmtMissingNtpAccess => "MGMT_MISSING_NTP_ACCESS"
  | mgmtMissing5gAccess => "MGMT_MISSING_5G_ACCESS"
  | securityNetworkNotIsolated => "SECURITY_NETWORK_NOT_ISOLATED"
  | mgmtNetworkNotIsolated => "MGMT_NETWORK_NOT_ISOLATED"
  | iotNetworkNotIsolated => "IOT_NETWORK_NOT_ISOLATED"
  | securityNetworkHasInternet => "SECURITY_NETWORK_HAS_INTERNET"
  | mgmtNetworkHasInternet => "MGMT_NETWORK_HAS_INTERNET"
  | dnsSharedServers => "DNS_SHARED_SERVERS"
  | mgmtDhcpEnabled => "MGMT_DHCP_ENABLED"
  | routingEnabled => "ROUTING_ENABLED"
  | upnpEnabled => "UPNP_ENABLED"
  | portForwardToIsolated => "PORT_FORWARD_TO_ISOLATED"
  | portForwardUnrestricted => "PORT_FORWARD_UNRESTRICTED"

/-- The kind with exactly this code. -/
def ofCode? (code : String) : Option FindingKind := all.find? (·.code == code)

/-- The severity that findings of a kind have unless a check sets another. -/
def severity : FindingKind → Severity
  | permissiveRule | missingIsolation | isolationBypassed | infraNotOnMgmt
  | securityNetworkNotIsolated | mgmtNetworkNotIsolated | portForwardToIsolated => .critical
  | broadRule | allowSubvertsDeny | internetBlockBypassed | iotNetworkNotIsolated
  | securityNetworkHasInternet | mgmtNetworkHasInternet | routingEnabled | upnpEnabled
  | portForwardUnrestricted => .recommended
  | orphanedRule | denyShadowsAllow | allowExceptionPattern | networkIsolationException
  | mgmtMissingUnifiAccess | mgmtMissingAfcAccess | mgmtMissingNtpAccess | mgmtMissing5gAccess
  | dnsSharedServers | mgmtDhcpEnabled => .informational

/-- The points that findings of a kind take off the score unless a check sets others. -/
def impact : FindingKind → UInt32
  | permissiveRule | missingIsolation | securityNetworkNotIsolated => 15
  | isolationBypassed | infraNotOnMgmt | mgmtNetworkNotIsolated | portForwardToIsolated => 10
  | broadRule | allowSubvertsDeny | internetBlockBypassed | iotNetworkNotIsolated
  | securityNetworkHasInternet | routingEnabled | upnpEnabled => 5
  | mgmtNetworkHasInternet | portForwardUnrestricted => 3
  | orphanedRule | denyShadowsAllow | allowExceptionPattern | networkIsolationException
  | mgmtMissingUnifiAccess | mgmtMissingAfcAccess | mgmtMissingNtpAccess | mgmtMissing5gAccess
  | dnsSharedServers | mgmtDhcpEnabled => 0

theorem ofCode_code (kind : FindingKind) : ofCode? kind.code = some kind := by
  cases kind <;> decide

/-- Exactly the informational kinds cost no points. -/
theorem impact_eq_zero_iff (kind : FindingKind) :
    kind.impact = 0 ↔ kind.severity = .informational := by
  cases kind <;> decide

end FindingKind

end SiteAudit

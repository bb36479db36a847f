import SiteAudit.Finding.Basic
import SiteAudit.Site.Trace

/-!
# Ways back to the internet

A network that is kept off the internet, with an allow rule of a user that
opens general access again: for applications, for all protocols, or for the
ports of the web. A rule for certain web domains opens no general access.

## Main results

* `allowsNew_of_bypass` — only allow rules for fresh connections count.
-/

namespace SiteAudit.Audit.InternetBypass

/-- What access a rule opens again, if its destination is on the internet. -/
def reason? (r : Rule) : Option String :=
  let tcp := r.protocol.admits .tcp
  match r.destination.target with
  | .web _ => none
  | .unsupported _ => none
  | .app _ => some "application match"
  | .appCategory _ => some "application match"
  | _ =>
    if r.destination.port.isNone then
      if r.protocol.isEverything then some "all protocols"
      else if tcp then some "web ports"
      else none
    else if tcp && (r.destination.includesPort "80" || r.destination.includesPort "443") then
      some "web ports"
    else none

/-- What access a rule gives back to a network. -/
def bypass? (site : Site) (r : Rule) (n : Network) : Option String :=
  if r.isUserRule && r.allowsNew && site.selects r.source n .touches &&
      site.reachesInternet r.destination then
    reason? r
  else none

/-- The finding about a network that a rule gives access back to. -/
def finding (r : Rule) (n : Network) (reason : String) : Finding :=
  Finding.ofKind .internetBlockBypassed
      ("Network '" ++ n.name ++ "' has internet access blocked, but rule '" ++ r.name ++
        "' allows it again (" ++ reason ++ ")")
    |>.withRule r.id
    |>.withCurrent n.name n.vlan
    |>.withDetail "reason" reason

/-- Networks that are kept off the internet and still get there. -/
def findings (site : Site) : List Finding :=
  (site.networks.filter site.internetBlocked).flatMap fun n =>
    site.rules.filterMap fun r => (bypass? site r n).map (finding r n)

/-- Only allow rules for fresh connections count. -/
theorem allowsNew_of_bypass {site : Site} {r : Rule} {n : Network} {reason : String}
    (h : bypass? site r n = some reason) : r.isUserRule = true ∧ r.allowsNew = true := by
  rw [bypass?] at h
  split at h
  · next hcond =>
    simp only [Bool.and_eq_true] at hcond
    exact hcond.1.1
  · simp at h

end SiteAudit.Audit.InternetBypass

import SiteAudit.Finding.Basic
import SiteAudit.Site.Basic

/-!
# References to networks that are gone

Controllers keep rules whose networks have been deleted. Where a site has no
networks at all, the list is missing rather than empty, and nothing is said.

## Main results

* `mem_missing` — which ids count as missing.
-/

namespace SiteAudit.Audit.Orphans

/-- The ids of networks that a rule refers to and the site does not have, in order. -/
def missing (site : Site) (r : Rule) : Text.NameSet :=
  .ofList (r.networkIds.filter fun id => (site.network? id).isNone)

/-- The finding about a rule with missing networks. -/
def finding (r : Rule) (ids : Text.NameSet) : Finding :=
  let list := Text.joinWith ", " ids.entries
  Finding.ofKind .orphanedRule
      ("Rule '" ++ r.name ++ "' references deleted network(s): " ++ list)
    |>.withRule r.id
    |>.withDetail "missing_network_ids" list

/-- The finding about a rule, if it is in force and refers to networks that are gone. -/
def finding? (site : Site) (r : Rule) : Option Finding :=
  let ids := missing site r
  if r.enabled && !ids.isEmpty then some (finding r ids) else none

/-- Rules that refer to networks that are gone. -/
def findings (site : Site) : List Finding :=
  if site.networks.isEmpty then [] else site.rules.filterMap (finding? site)

/-- The ids that count as missing are those the rule names and the site does not have. -/
theorem mem_missing {site : Site} {r : Rule} {id : String} :
    id ∈ (missing site r).entries ↔
      id ∈ r.networkIds ∧ ∀ n ∈ site.networks, n.id ≠ id := by
  simp [missing, Text.Sorted.mem_ofList_names, Site.network?]

end SiteAudit.Audit.Orphans

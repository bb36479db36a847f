import SiteAudit.Audit.Breadth
import SiteAudit.Audit.Exposure
import SiteAudit.Audit.InternetBypass
import SiteAudit.Audit.Isolation
import SiteAudit.Audit.IsolationExceptions
import SiteAudit.Audit.ManagementAccess
import SiteAudit.Audit.NetworkPosture
import SiteAudit.Audit.Orphans
import SiteAudit.Audit.Placement
import SiteAudit.Audit.Settings
import SiteAudit.Audit.Shadowing

/-!
# Running an audit

The families of checks run one after the other, each on the whole site and
without regard to the others. The settings leave out whole families and
findings of little urgency.

## Main results

* `mem_run` — which findings an audit has.
-/

namespace SiteAudit.Audit

/-- The findings of one family of checks. -/
def runCheck (site : Site) : Check → List Finding
  | .managementAccess => ManagementAccess.findings site
  | .shadowing => Shadowing.findings site
  | .permissive => Breadth.findings site
  | .orphaned => Orphans.findings site
  | .interVlanIsolation => Isolation.findings site
  | .internetBypass => InternetBypass.findings site
  | .isolationExceptions => IsolationExceptions.findings site
  | .infrastructurePlacement => Placement.findings site
  | .networkConfiguration => NetworkPosture.findings site
  | .exposure => Exposure.findings site

/-- The findings of all families that the settings let run, however urgent. -/
def allFindings (site : Site) (settings : AuditSettings) : List Finding :=
  (Check.all.filter settings.isEnabled).flatMap (runCheck site)

/-- The findings of an audit. -/
def run (site : Site) (settings : AuditSettings) : List Finding :=
  (allFindings site settings).filter fun f => settings.keeps f.severity

/-- The findings of an audit are those of the enabled families that are urgent enough. -/
theorem mem_run {site : Site} {settings : AuditSettings} {f : Finding} :
    f ∈ run site settings ↔
      (∃ check, settings.isEnabled check = true ∧ f ∈ runCheck site check) ∧
        settings.keeps f.severity = true := by
  simp [run, allFindings, Check.mem_all]

end SiteAudit.Audit

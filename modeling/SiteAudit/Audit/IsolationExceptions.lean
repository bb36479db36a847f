import SiteAudit.Audit.ManagementAccess
import SiteAudit.Text.LowerCase

/-!
# Exceptions to isolated networks

For networks that the controller isolates it generates a block rule, which is
known by its name. An allow rule of a user that starts in such a network and
does not lead outside opens an exception.

## Main results

* `isAllow_of_isException` — only allow rules open exceptions.
-/

namespace SiteAudit.Audit.IsolationExceptions

/-- What the name of the generated rule contains, in small letters. -/
def generatedName : String := "isolated networks"

/-- Whether a rule is the generated one and touches the network. -/
def isGenerated (site : Site) (n : Network) (r : Rule) : Bool :=
  r.enabled && r.predefined && r.isBlock &&
    Text.occursIn generatedName.toList (Text.lower r.name).toList &&
    site.selects r.source n .touches

/-- Whether the controller isolates a network, and a generated rule enforces it. -/
def isEnforced (site : Site) (n : Network) : Bool :=
  n.isolated && site.rules.any (isGenerated site n)

/-- Whether a rule starts in a network that it names, by its id or by addresses that cover it. -/
def startsIn (site : Site) (n : Network) (r : Rule) : Bool :=
  match r.source.target with
  | .network ids false => ids.contains n.id
  | .ip _ false => site.selects r.source n .covers
  | _ => false

/-- Whether a rule leads to domains or applications, which are no part of the site. -/
def leadsToServices (r : Rule) : Bool :=
  match r.destination.target with
  | .web _ => true
  | .app _ => true
  | .appCategory _ => true
  | _ => false

/-- Whether an allow rule opens an exception to the isolation of a network. -/
def isException (site : Site) (n : Network) (r : Rule) : Bool :=
  r.isAllow && startsIn site n r && !site.isExternal r.destination && !leadsToServices r &&
    !ManagementAccess.isCarveOut site r

/-- The purpose of the network, and the one it leads to where that is known. -/
def description (site : Site) (n : Network) (r : Rule) : String :=
  match site.purposeOf? r.destination with
  | some destination => n.purpose.name ++ " -> " ++ destination.name
  | none => n.purpose.name ++ " ->"

/-- The finding about a rule that opens an exception. -/
def finding (site : Site) (n : Network) (r : Rule) : Finding :=
  Finding.ofKind .networkIsolationException
      ("Rule '" ++ r.name ++ "' opens an exception to the isolation of '" ++ n.name ++ "' (" ++
        r.destination.summary ++ ")")
    |>.withDescription (description site n r)
    |>.withRule r.id
    |>.withCurrent n.name n.vlan

/-- Rules that open exceptions to isolated networks. -/
def findings (site : Site) : List Finding :=
  (site.networks.filter (isEnforced site)).flatMap fun n =>
    (site.userRules.filter (isException site n)).map (finding site n)

/-- Only allow rules open exceptions. -/
theorem isAllow_of_isException {site : Site} {n : Network} {r : Rule}
    (h : isException site n r = true) : r.isAllow = true := by
  simp only [isException, Bool.and_eq_true] at h
  exact h.1.1.1.1

end SiteAudit.Audit.IsolationExceptions

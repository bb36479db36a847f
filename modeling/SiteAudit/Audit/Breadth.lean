import SiteAudit.Finding.Basic
import SiteAudit.Site.Basic

/-!
# Rules that allow too much

An allow rule of a user for fresh connections should be narrow on at least
one side. Wide open is one that allows everything from everywhere to
everywhere inside; broad is one with any source and a destination that is
not pinned down, or the other way round.

## Main results

* `breadth_eq_wideOpen_iff` — when a rule is wide open.
-/

namespace SiteAudit

/-- Whether a side selects everything: any target, any port. -/
def Endpoint.isOpen (e : Endpoint) : Bool := e.isAny && e.port.isNone

/-- Whether a side is narrowed by a port, a network, an address or a client. -/
def Endpoint.isPinned (e : Endpoint) : Bool :=
  e.port.isSome || match e.target with
    | .network .. => true
    | .ip .. => true
    | .client _ => true
    | _ => false

namespace Audit.Breadth

/-- How much too much a rule allows. -/
inductive Extent where
  | wideOpen
  | broad
deriving Repr, DecidableEq

/-- Whether a rule allows everything to everything inside. -/
def isWideOpen (site : Site) (r : Rule) : Bool :=
  r.source.isOpen && r.destination.isOpen && r.protocol.isEverything &&
    !site.isExternal r.destination

/-- Whether one side of a rule is any and the other one is not pinned down. -/
def isBroad (r : Rule) : Bool :=
  (r.source.isAny && !r.destination.isPinned) || (r.destination.isAny && !r.source.isPinned)

/-- How much too much a rule allows, if it does. -/
def breadth? (site : Site) (r : Rule) : Option Extent :=
  if !(r.isUserRule && r.allowsNew) then none
  else if isWideOpen site r then some .wideOpen
  else if isBroad r then some .broad
  else none

/-- What is to be said about a rule that allows too much. -/
def finding (r : Rule) : Extent → Finding
  | .wideOpen =>
    Finding.ofKind .permissiveRule
      ("Rule '" ++ r.name ++ "' allows all traffic from any source to any destination")
  | .broad =>
    Finding.ofKind .broadRule
      ("Rule '" ++ r.name ++ "' allows traffic with an unrestricted " ++
        (if r.source.isAny then "source" else "destination") ++ " (" ++ r.source.summary ++
        " -> " ++ r.destination.summary ++ ")")

/-- Rules that allow too much. -/
def findings (site : Site) : List Finding :=
  site.rules.filterMap fun r => (breadth? site r).map fun breadth =>
    (finding r breadth).withRule r.id |>.withDetail "protocol" r.protocol.summary

/-- A rule is wide open if a user let everything in. -/
theorem breadth_eq_wideOpen_iff {site : Site} {r : Rule} :
    breadth? site r = some .wideOpen ↔
      r.isUserRule = true ∧ r.allowsNew = true ∧ isWideOpen site r = true := by
  rw [breadth?]
  cases r.isUserRule <;> cases r.allowsNew <;> cases isWideOpen site r <;>
    cases isBroad r <;> simp

end Audit.Breadth

end SiteAudit

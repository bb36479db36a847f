import SiteAudit.Net.Address

/-!
# Port forwards

A port forward lets traffic from outside through to a host of the site. It
is open to every source unless it names the one it accepts.
-/

namespace SiteAudit

/-- A static port forward. -/
structure PortForward where
  id : String
  name : String
  enabled : Bool
  forwardIp : Option Net.Address
  forwardPort : Option String
  destinationPort : Option String
  protocol : String
  /-- The source that is accepted, if not every one is. -/
  source : Option String
deriving Repr, DecidableEq

/-- Whether only one source is accepted. -/
def PortForward.isRestricted (f : PortForward) : Bool := f.source.isSome

end SiteAudit

import SiteAudit.Text.Ascii
import SiteAudit.Text.Blank

/-!
# Protocols

The IP protocol that a rule selects. Six protocols are known by name; every
other one is kept by its name, so that a rule for `gre` still matches `gre`.
A rule may invert its protocol and select everything else.

## Main results

* `covers_self` — every protocol covers itself.
* `admits_invert` — inverting a selector turns each answer around.
-/

namespace SiteAudit

/-- An IP protocol, or the ones a rule can name together. -/
inductive Protocol where
  | all
  | tcp
  | udp
  | tcpUdp
  | icmp
  | icmpv6
  | other (name : String)
deriving Repr, DecidableEq

namespace Protocol

/-- The protocol of a name in small letters without blanks around it. -/
def ofName (name : String) : Protocol :=
  if name ∈ ["", "all", "any"] then .all
  else if name = "tcp" then .tcp
  else if name = "udp" then .udp
  else if name ∈ ["tcp_udp", "tcp-udp", "tcp/udp"] then .tcpUdp
  else if name = "icmp" then .icmp
  else if name ∈ ["icmpv6", "ipv6-icmp"] then .icmpv6
  else .other name

/-- The protocol of a name; blanks around it and ASCII letter case do not count. -/
def parse (text : String) : Protocol := ofName (Text.asciiLower (Text.trim text))

/-- The name of a protocol. -/
def name : Protocol → String
  | .all => "all"
  | .tcp => "tcp"
  | .udp => "udp"
  | .tcpUdp => "tcp_udp"
  | .icmp => "icmp"
  | .icmpv6 => "icmpv6"
  | .other name => name

/-- Whether all traffic of the second protocol is traffic of the first. -/
def covers : Protocol → Protocol → Bool
  | .all, _ => true
  | .tcpUdp, target => target == .tcp || target == .udp || target == .tcpUdp
  | protocol, target => protocol == target

theorem covers_self (p : Protocol) : p.covers p = true := by cases p <;> simp [covers]

end Protocol

/-- The protocols a rule selects: one and what it covers, or everything else. -/
structure ProtocolMatch where
  protocol : Protocol
  inverted : Bool
deriving Repr, DecidableEq

namespace ProtocolMatch

/-- The selector of all protocols. -/
def everything : ProtocolMatch := ⟨.all, false⟩

/-- Whether traffic of the protocol is selected. -/
def admits (m : ProtocolMatch) (target : Protocol) : Bool :=
  m.protocol.covers target != m.inverted

/-- Whether no protocol is left out. -/
def isEverything (m : ProtocolMatch) : Bool := m.protocol == .all && !m.inverted

/-- The name of the protocol, after an exclamation mark if inverted. -/
def summary (m : ProtocolMatch) : String :=
  (if m.inverted then "!" else "") ++ m.protocol.name

/-- Whether some protocol is selected by both. -/
def overlaps (a b : ProtocolMatch) : Bool :=
  match a.inverted, b.inverted with
  | false, false => a.protocol.covers b.protocol || b.protocol.covers a.protocol
  | true, false => !a.protocol.covers b.protocol
  | false, true => !b.protocol.covers a.protocol
  | true, true => a.protocol != .all && b.protocol != .all

/-- Whether every protocol that `inner` selects is selected by `outer`. -/
def contains (outer inner : ProtocolMatch) : Bool :=
  match outer.inverted, inner.inverted with
  | false, false => outer.protocol.covers inner.protocol
  | true, false =>
    !(outer.protocol.covers inner.protocol || inner.protocol.covers outer.protocol)
  | false, true => outer.protocol == .all
  | true, true => inner.protocol.covers outer.protocol

theorem admits_invert (m : ProtocolMatch) (target : Protocol) :
    admits { m with inverted := !m.inverted } target = !m.admits target := by
  simp only [admits]
  cases m.protocol.covers target <;> cases m.inverted <;> rfl

end ProtocolMatch

end SiteAudit

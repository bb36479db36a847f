import SiteAudit.Numeral
import SiteAudit.Text.Blank

/-!
# Port specifications

A port specification such as `22,50-100,443` lists ports and ranges. It is
kept as text in a rule, since a rule may carry one that cannot be read; this
module gives it its meaning. A specification with one bad entry has no
meaning at all, and so does one without entries.

## Main results

* `includesPort_iff` — the ports of a specification are those of its ranges.
-/

namespace SiteAudit

/-- The largest port number. -/
def maxPort : Nat := 65535

/-- A range of ports, both ends included. -/
structure PortRange where
  first : Nat
  last : Nat
  ordered : first ≤ last
  bounded : last ≤ maxPort
deriving Repr, DecidableEq

namespace PortRange

/-- Whether the port lies in the range. -/
def contains (r : PortRange) (port : Nat) : Bool := r.first ≤ port && port ≤ r.last

/-- Whether every port of the inner range lies in the outer one. -/
def covers (outer inner : PortRange) : Bool :=
  outer.first ≤ inner.first && inner.last ≤ outer.last

/-- Whether two ranges share a port. -/
def overlaps (a b : PortRange) : Bool := a.first ≤ b.last && b.first ≤ a.last

/-- The range between two ports in order. -/
def between? (first last : Nat) : Option PortRange :=
  if h : first ≤ last ∧ last ≤ maxPort then some ⟨first, last, h.1, h.2⟩ else none

end PortRange

namespace PortSpec

/-- A port number; blanks around it do not count. -/
def port? (s : List Char) : Option Nat := Numeral.unsigned? maxPort (Text.trimChars s)

/-- One entry: a port, or two ports with a dash between them. -/
def entry? (s : List Char) : Option PortRange :=
  match Text.cut '-' s with
  | some (low, high) => do PortRange.between? (← port? low) (← port? high)
  | none => do
    let port ← port? s
    PortRange.between? port port

/-- The entries of a specification; empty ones do not count. -/
def entries (spec : String) : List (List Char) :=
  ((Text.pieces ',' spec.toList).map Text.trimChars).filter (!·.isEmpty)

/-- The ranges of a specification, unless an entry is bad or there is none. -/
def ranges? (spec : String) : Option (List PortRange) := do
  let found ← (entries spec).mapM entry?
  if found.isEmpty then none else some found

/-- Whether the specification includes a port, given by its number. -/
def includesPort (spec : String) (port : Nat) : Bool :=
  match ranges? spec with
  | some ranges => ranges.any (·.contains port)
  | none => false

/-- Whether the specification includes a port, given as text; what is no port is not included. -/
def includes (spec port : String) : Bool :=
  match port? port.toList with
  | some port => includesPort spec port
  | none => false

/-- Whether two specifications share a port, as far as that can be ruled out by reading them. -/
def overlap (a b : String) : Bool :=
  match ranges? a, ranges? b with
  | some a, some b => a.any fun x => b.any x.overlaps
  | _, _ => true

/-- Whether each range of the inner specification lies in one of the outer. -/
def contains (outer inner : String) : Bool :=
  match ranges? outer, ranges? inner with
  | some outer, some inner => inner.all fun r => outer.any (·.covers r)
  | _, _ => false

/-- The ports of a specification are those of its ranges. -/
theorem includesPort_iff {spec : String} {ranges : List PortRange}
    (h : ranges? spec = some ranges) (port : Nat) :
    includesPort spec port = true ↔ ∃ r ∈ ranges, r.first ≤ port ∧ port ≤ r.last := by
  simp [includesPort, h, PortRange.contains]

end PortSpec

end SiteAudit

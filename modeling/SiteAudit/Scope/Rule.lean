import SiteAudit.Scope.Target

/-!
# Comparing rules

Whether every flow that one rule matches is matched by another, and whether
some flow is matched by both. Rules are compared in their protocols,
connection states and both sides; sides in their zones, ports and targets.

## Main results

* `ruleContains_iff`, `rulesOverlap_iff` — the parts of each answer.
-/

namespace SiteAudit.Scope

/-! ## Sides -/

/-- Port specifications by the ports they include. -/
def byPorts : Comparison String := ⟨PortSpec.contains, PortSpec.overlap⟩

/-- Whether the ports of the inner side are known to be ports of the outer one. -/
def portsContain (outer inner : Endpoint) : Bool :=
  match outer.port, inner.port with
  | none, _ => true
  | some _, none => false
  | some o, some i => byPorts.invertedContains ⟨o, outer.invertPorts⟩ ⟨i, inner.invertPorts⟩

/-- Whether two sides may have a port in common. -/
def portsOverlap (a b : Endpoint) : Bool :=
  match a.port, b.port with
  | none, _ => true
  | _, none => true
  | some x, some y => byPorts.invertedOverlaps ⟨x, a.invertPorts⟩ ⟨y, b.invertPorts⟩

/-- Whether the zone of the inner side is that of the outer one, if the outer one names any. -/
def zonesContain (outer inner : Endpoint) : Bool := outer.zone.all (inner.zone == some ·)

/-- Whether two sides do not name two zones. -/
def zonesOverlap (a b : Endpoint) : Bool := a.zone.all fun x => b.zone.all (x == ·)

/-- Whether the inner side is known to select only what the outer one selects. -/
def endpointContains (site : Site) (outer inner : Endpoint) : Bool :=
  zonesContain outer inner && portsContain outer inner &&
    targetContains site outer.target inner.target

/-- Whether two sides may select something in common. -/
def endpointsOverlap (site : Site) (a b : Endpoint) : Bool :=
  zonesOverlap a b && portsOverlap a b && targetOverlaps site a.target b.target

/-! ## Rules -/

/-- Whether every flow that the inner rule matches is known to be matched by the outer one. -/
def ruleContains (site : Site) (outer inner : Rule) : Bool :=
  outer.protocol.contains inner.protocol &&
    byElements.contains outer.stateNames inner.stateNames &&
    endpointContains site outer.source inner.source &&
    endpointContains site outer.destination inner.destination

/-- Whether some flow may be matched by both rules. -/
def rulesOverlap (site : Site) (a b : Rule) : Bool :=
  a.protocol.overlaps b.protocol &&
    byElements.overlaps a.stateNames b.stateNames &&
    endpointsOverlap site a.source b.source &&
    endpointsOverlap site a.destination b.destination

/-! ## Laws -/

theorem endpointContains_iff {site : Site} {outer inner : Endpoint} :
    endpointContains site outer inner = true ↔
      zonesContain outer inner = true ∧ portsContain outer inner = true ∧
        targetContains site outer.target inner.target = true := by
  simp [endpointContains, and_assoc]

theorem ruleContains_iff {site : Site} {outer inner : Rule} :
    ruleContains site outer inner = true ↔
      outer.protocol.contains inner.protocol = true ∧
        (∀ state ∈ inner.stateNames, state ∈ outer.stateNames) ∧
        endpointContains site outer.source inner.source = true ∧
        endpointContains site outer.destination inner.destination = true := by
  simp [ruleContains, byElements, and_assoc]

theorem rulesOverlap_iff {site : Site} {a b : Rule} :
    rulesOverlap site a b = true ↔
      a.protocol.overlaps b.protocol = true ∧
        (∃ state ∈ a.stateNames, state ∈ b.stateNames) ∧
        endpointsOverlap site a.source b.source = true ∧
        endpointsOverlap site a.destination b.destination = true := by
  simp [rulesOverlap, byElements, and_assoc]

end SiteAudit.Scope

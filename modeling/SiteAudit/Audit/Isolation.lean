import SiteAudit.Finding.Basic
import SiteAudit.Site.Trace

/-!
# Isolation between networks

Networks whose purposes should not mix need a rule that blocks fresh
connections between them, in one direction at least. Worse than no such rule
is an allow rule of a user that decides on fresh connections between them;
that is reported in its place.

Two networks that the controller isolates need no rule.

## Main results

* `separation_comm` — the separation of two purposes does not depend on
  their order.
* `mem_pairs` — every pair of places in a list is looked at once.
-/

namespace SiteAudit

/-- Whether one of two purposes is `p` and the other one satisfies a condition. -/
def Purpose.oneIs (p : Purpose) (other : Purpose → Bool) (a b : Purpose) : Bool :=
  (a == p && other b) || (b == p && other a)

/-- How badly the networks of two purposes have to be kept apart, if at all. -/
def Purpose.separation? (a b : Purpose) : Option Severity :=
  if a = b then none
  else if a.isSensitive || b.isSensitive then some .critical
  else if Purpose.oneIs .guest Purpose.isTrusted a b then some .critical
  else if Purpose.oneIs .iot (fun p => p.isTrusted || p == .guest) a b then some .recommended
  else none

namespace Audit.Isolation

/-- The points for networks that are not kept apart. -/
def impact : Severity → UInt32
  | .critical => 15
  | .recommended => 5
  | .informational => 0

/-- Whether a rule blocks fresh connections from one network to another. -/
def blocks (site : Site) (source destination : Network) (r : Rule) : Bool :=
  r.enabled && r.blocksNew && site.selects r.source source .touches &&
    site.selects r.destination destination .touches

/-- Whether some rule blocks fresh connections between two networks. -/
def isBlocked (site : Site) (a b : Network) : Bool :=
  site.rules.any fun r => blocks site a b r || blocks site b a r

/-- Whether the source of a rule names networks or addresses. -/
def namesSource (r : Rule) : Bool :=
  match r.source.target with
  | .network .. => true
  | .ip .. => true
  | _ => false

/-- The allow rule of a user, for a named source, that decides on fresh connections. -/
def bypass? (site : Site) (source destination : Network) : Option Rule :=
  (site.trace source destination .everything true).effective.filter fun r =>
    r.isAllow && !r.predefined && namesSource r && !site.isExternal r.destination

/-- A network with its VLAN. -/
def label (n : Network) : String := n.name ++ " (VLAN " ++ Numeral.decimal n.vlan.toNat ++ ")"

/-- The two purposes that should not mix. -/
def description (a b : Network) : String := a.purpose.name ++ " <-> " ++ b.purpose.name

/-- The finding about an allow rule that bypasses the isolation. -/
def bypassed (description : String) (r : Rule) (source destination : Network) : Finding :=
  Finding.ofKind .isolationBypassed
      ("Allow rule '" ++ r.name ++ "' lets " ++ label source ++ " open connections to " ++
        label destination)
    |>.withDescription description
    |>.withRule r.id
    |>.withCurrent source.name source.vlan
    |>.withDetail "destination_network_id" destination.id

/-- The finding about two networks that no rule keeps apart. -/
def missing (severity : Severity) (a b : Network) : Finding :=
  Finding.ofKind .missingIsolation
      ("No firewall rule blocks traffic between " ++ label a ++ " and " ++ label b)
    |>.withSeverity severity (impact severity)
    |>.withDescription (description a b)
    |>.withCurrent a.name a.vlan
    |>.withDetail "network_a_id" a.id
    |>.withDetail "network_b_id" b.id

/-- The finding about two networks, if they should be kept apart and are not. -/
def finding? (site : Site) (a b : Network) : Option Finding :=
  if a.isolated && b.isolated then none
  else (a.purpose.separation? b.purpose).bind fun severity =>
    match bypass? site a b with
    | some r => some (bypassed (description a b) r a b)
    | none =>
      match bypass? site b a with
      | some r => some (bypassed (description a b) r b a)
      | none => if isBlocked site a b then none else some (missing severity a b)

/-- The pairs of two places in a list, the earlier one first. -/
def pairs : List α → List (α × α)
  | [] => []
  | a :: rest => rest.map (a, ·) ++ pairs rest

/-- Networks that should be kept apart and are not. -/
def findings (site : Site) : List Finding :=
  (pairs site.networks).filterMap fun (a, b) => finding? site a b

end Audit.Isolation

/-! ## Laws -/

/-- The separation of two purposes does not depend on their order. -/
theorem Purpose.separation_comm (a b : Purpose) : a.separation? b = b.separation? a := by
  cases a <;> cases b <;> rfl

/-- Every pair of places in a list is looked at once. -/
theorem Audit.Isolation.mem_pairs {list : List α} {a b : α} :
    (a, b) ∈ pairs list ↔ ∃ x y z, list = x ++ a :: y ++ b :: z := by
  induction list with
  | nil => simp [pairs]
  | cons c rest ih =>
    simp only [pairs, List.mem_append, List.mem_map, Prod.mk.injEq, ih]
    constructor
    · rintro (⟨d, hd, rfl, rfl⟩ | ⟨x, y, z, rfl⟩)
      · obtain ⟨y, z, rfl⟩ := List.append_of_mem hd
        exact ⟨[], y, z, by simp⟩
      · exact ⟨c :: x, y, z, by simp⟩
    · rintro ⟨x, y, z, h⟩
      cases x with
      | nil =>
        simp only [List.nil_append, List.cons_append, List.cons.injEq] at h
        exact Or.inl ⟨b, by simp [h.2], h.1, rfl⟩
      | cons d x =>
        simp only [List.cons_append, List.cons.injEq] at h
        exact Or.inr ⟨x, y, z, by simp [h.2]⟩

end SiteAudit

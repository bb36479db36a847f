import SiteAudit.Firewall.Rule

/-!
# Which rule decides

Rules are tried in the order of their index, and the first that matches
decides. This module finds the deciding rule among those that match some
traffic, and the first rule of the opposite action that it hides.

## Main results

* `mem_candidates` — which rules can decide at all.
* `effective_eq_head` — the deciding rule is the first candidate in order.
-/

namespace SiteAudit

/-- The outcome for some traffic. -/
structure Verdict where
  /-- The rule that decides, if one matches. -/
  effective : Option Rule
  allowed : Bool
  /-- The deciding rule blocks, and applies to fresh connections. -/
  blocked : Bool
  /-- Behind a deciding allow rule, the first block rule. -/
  eclipsedBlock : Option Rule
  /-- Behind a deciding block rule, the first allow rule. -/
  eclipsedAllow : Option Rule
deriving DecidableEq

namespace Verdict

/-- The outcome for traffic that no rule matches. -/
def none : Verdict := ⟨.none, false, false, .none, .none⟩

/-- The rule that the deciding rule hides, if there is one. -/
def eclipsed (v : Verdict) : Option Rule := v.eclipsedBlock.or v.eclipsedAllow

/-- The deciding rule, if it blocks. -/
def blockRule (v : Verdict) : Option Rule := v.effective.filter Rule.isBlock

/-- The deciding rule, if it allows. -/
def allowRule (v : Verdict) : Option Rule := v.effective.filter Rule.isAllow

end Verdict

namespace Rule

/-- Whether the rule only lets answers pass, so that it never decides on a fresh connection. -/
def allowsAnswersOnly (r : Rule) : Bool := r.isAllow && r.stateType == .respondOnly

/--
The rules that can decide: in force, with a known action, and matching. For fresh connections,
rules that only let answers pass are left out.
-/
def candidates (rules : List Rule) (applies : Rule → Bool) (newOnly : Bool) : List Rule :=
  rules.filter fun r =>
    r.enabled && r.action != .unknown && applies r && !(newOnly && r.allowsAnswersOnly)

/-- The outcome for the traffic that `applies` describes. -/
def evaluate (rules : List Rule) (applies : Rule → Bool) (newOnly : Bool) : Verdict :=
  match inOrder (candidates rules applies newOnly) with
  | [] => Verdict.none
  | effective :: rest =>
    let eclipsed := effective.action.opposite?.bind fun wanted => rest.find? (·.action == wanted)
    { effective := some effective
      allowed := effective.isAllow
      blocked := effective.blocksNew
      eclipsedBlock := if effective.isAllow then eclipsed else none
      eclipsedAllow := if effective.isBlock then eclipsed else none }

/-! ## Laws -/

theorem mem_candidates {rules : List Rule} {applies : Rule → Bool} {newOnly : Bool} {r : Rule} :
    r ∈ candidates rules applies newOnly ↔
      r ∈ rules ∧ r.enabled = true ∧ r.action ≠ .unknown ∧ applies r = true ∧
        (newOnly = true → r.allowsAnswersOnly = false) := by
  cases newOnly <;> simp [candidates, and_assoc]

/-- The deciding rule is the first candidate in order. -/
theorem effective_eq_head (rules : List Rule) (applies : Rule → Bool) (newOnly : Bool) :
    (evaluate rules applies newOnly).effective =
      (inOrder (candidates rules applies newOnly)).head? := by
  rw [evaluate]
  cases inOrder (candidates rules applies newOnly) <;> rfl

end Rule

end SiteAudit

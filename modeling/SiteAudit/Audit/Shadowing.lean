import SiteAudit.Audit.ManagementAccess
import SiteAudit.Scope.Rule

/-!
# Rules in each other's way

Rules of users are looked at in their order, each together with those before
and after it. A rule that an earlier one of the opposite action contains is
dead: it never matches. An allow rule before a block rule that it does not
contain makes an exception, which is usual and reported for review.

## Main results

* `mem_splits` — a split is a place in the list.
* `containing_of_eclipsedBy` — the rule that makes another one dead comes
  before it and contains it.
-/

namespace SiteAudit.Audit.Shadowing

/-- Every element of a list with those before and those after it. -/
def splits (before : List α) : List α → List (List α × α × List α)
  | [] => []
  | a :: after => (before, a, after) :: splits (before ++ [a]) after

/-- The rules of users with a known action, in their order. -/
def userOrder (site : Site) : List Rule :=
  Rule.inOrder (site.userRules.filter fun r => r.isAllow || r.isBlock)

/-! ## Dead rules -/

/-- Whether an earlier rule decides before a rule whenever that one would, to the opposite. -/
def eclipses (site : Site) (earlier r : Rule) : Bool :=
  (if r.isBlock then earlier.isAllow else earlier.blocksNew) && Scope.ruleContains site earlier r

/-- The first of the earlier rules that makes a rule dead. -/
def eclipsedBy? (site : Site) (earlier : List Rule) (r : Rule) : Option Rule :=
  earlier.find? (eclipses site · r)

/-- The finding about a dead rule. -/
def dead (r earlier : Rule) : Finding :=
  let index := Numeral.signedDecimal earlier.index
  if r.isBlock then
    Finding.ofKind .allowSubvertsDeny
        ("Block rule '" ++ r.name ++ "' never matches: allow rule '" ++ earlier.name ++
          "' (index " ++ index ++ ") accepts the same traffic first")
      |>.withRule r.id
      |>.withDetail "allow_rule_id" earlier.id
  else
    Finding.ofKind .denyShadowsAllow
        ("Allow rule '" ++ r.name ++ "' never matches: block rule '" ++ earlier.name ++
          "' (index " ++ index ++ ") drops the same traffic first")
      |>.withRule r.id
      |>.withDetail "block_rule_id" earlier.id

/-- The dead rules, each with the rule that makes it dead. -/
def deadRules (site : Site) : List (Rule × Rule) :=
  (splits [] (userOrder site)).filterMap fun (earlier, r, _) =>
    (eclipsedBy? site earlier r).map (r, ·)

/-! ## Exceptions -/

/-- What the traffic of a block rule is, in a few words. -/
def blockDescription (site : Site) (block : Rule) : String :=
  if site.isExternal block.destination then "External Access"
  else if site.isGateway block.destination then ""
  else match site.purposeOf? block.source, site.purposeOf? block.destination with
    | some source, some destination => source.name ++ " -> " ++ destination.name
    | _, _ => ""

/-- Whether an allow rule opens a way into a sensitive network that it names. -/
def opensSensitive (site : Site) (allow : Rule) : Bool :=
  !allow.destination.isAny &&
    site.touchesAny allow.destination (site.networks.filter (·.purpose.isSensitive))

/-- Whether an allow rule takes some of what a block rule matches, but not all. -/
def exempts (site : Site) (allow block : Rule) : Bool :=
  block.isBlock && Scope.rulesOverlap site allow block && !Scope.ruleContains site allow block

/-- The finding about an allow rule that makes an exception. -/
def exception (site : Site) (allow block : Rule) : Finding :=
  let found :=
    Finding.ofKind .allowExceptionPattern
        ("Allow rule '" ++ allow.name ++ "' makes an exception to block rule '" ++ block.name ++
          "'")
      |>.withDescription (blockDescription site block)
      |>.withRule allow.id
      |>.withDetail "block_rule_id" block.id
  if opensSensitive site allow then found.withSeverity .recommended 3 else found

/-- The ids of allow rules that are dead. -/
def deadAllowIds (site : Site) : List String :=
  (deadRules site).filterMap fun (r, _) => if r.isBlock then none else some r.id

/-- Whether an allow rule is one that can make an exception: neither dead nor a carve-out. -/
def isExceptionCandidate (site : Site) (deadIds : List String) (r : Rule) : Bool :=
  r.isAllow && !deadIds.contains r.id && !ManagementAccess.isCarveOut site r

/-- The allow rules that make an exception, each with the first later rule they make it to. -/
def exceptions (site : Site) : List (Rule × Rule) :=
  let deadIds := deadAllowIds site
  (splits [] (userOrder site)).filterMap fun (_, r, later) =>
    if isExceptionCandidate site deadIds r then (later.find? (exempts site r)).map (r, ·)
    else none

/-- Dead rules, then exceptions. -/
def findings (site : Site) : List Finding :=
  (deadRules site).map (fun (r, earlier) => dead r earlier) ++
    (exceptions site).map fun (allow, block) => exception site allow block

/-! ## Laws -/

/-- A split is a place in the list. -/
theorem mem_splits {before list : List α} {s : List α × α × List α} :
    s ∈ splits before list ↔
      ∃ front, list = front ++ s.2.1 :: s.2.2 ∧ s.1 = before ++ front := by
  induction list generalizing before with
  | nil => simp [splits]
  | cons a after ih =>
    obtain ⟨b, x, rest⟩ := s
    simp only [splits, List.mem_cons, Prod.mk.injEq, ih]
    constructor
    · rintro (⟨rfl, rfl, rfl⟩ | ⟨front, rfl, rfl⟩)
      · exact ⟨[], by simp⟩
      · exact ⟨a :: front, by simp⟩
    · rintro ⟨front, hlist, rfl⟩
      cases front with
      | nil => simp_all
      | cons c front =>
        simp only [List.cons_append, List.cons.injEq] at hlist
        exact Or.inr ⟨front, hlist.2, by simp [hlist.1]⟩

/-- The rule that makes another one dead comes before it and contains it. -/
theorem containing_of_eclipsedBy {site : Site} {earlier : List Rule} {r e : Rule}
    (h : eclipsedBy? site earlier r = some e) :
    e ∈ earlier ∧ Scope.ruleContains site e r = true := by
  have heclipses := List.find?_some h
  rw [eclipses, Bool.and_eq_true] at heclipses
  exact ⟨List.mem_of_find?_eq_some h, heclipses.2⟩

end SiteAudit.Audit.Shadowing

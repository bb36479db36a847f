import SiteAudit.Finding.Basic

/-!
# Reports

The findings of an audit with the security score and the number of findings
of each severity. The score starts at one hundred and loses the points of
every finding, but never falls below zero.

Points are added up before they are taken off, in 32 bits and with every sum
checked. Findings whose points do not fit have no report: the program stops in
the middle of the sum.

## Main results

* `score_le` — no report has a score above one hundred.
* `hasAtLeast_iff` — a threshold is reached exactly if some finding reaches
  it.
-/

namespace SiteAudit

/-- The findings of an audit and what they add up to. -/
structure Report where
  findings : List Finding
  score : UInt32
  critical : Nat
  recommended : Nat
  informational : Nat
deriving DecidableEq

namespace Report

/-- The score of a site without findings. -/
def maxScore : UInt32 := 100

/-- The sum of two numbers of points, if it fits in 32 bits. -/
def addPoints? (a b : UInt32) : Option UInt32 :=
  if a.toNat + b.toNat < UInt32.size then some (a + b) else none

/-- The sum of the points of all findings, if it fits in 32 bits. -/
def deduction? (findings : List Finding) : Option UInt32 :=
  findings.foldlM (fun sum f => addPoints? sum f.impact) 0

/-- What is left of the score, or zero. -/
def remaining (deduction : UInt32) : UInt32 :=
  if maxScore < deduction then 0 else maxScore - deduction

/-- How many findings have exactly this severity. -/
def countOf (findings : List Finding) (severity : Severity) : Nat :=
  findings.countP (·.severity == severity)

/-- The report of findings whose points have this sum. -/
def withDeduction (findings : List Finding) (deduction : UInt32) : Report where
  findings := findings
  score := remaining deduction
  critical := countOf findings .critical
  recommended := countOf findings .recommended
  informational := countOf findings .informational

/-- The report of a list of findings, if their points can be added up. -/
def ofFindings? (findings : List Finding) : Option Report :=
  (deduction? findings).map (withDeduction findings)

/-- Whether there are no findings. -/
def isClean (r : Report) : Bool := r.findings.isEmpty

/-- The most urgent severity among the findings. -/
def worst? (r : Report) : Option Severity :=
  r.findings.foldl (fun worst f => some (match worst with
    | some severity => severity.max f.severity
    | none => f.severity)) none

/-- Whether some finding reaches the threshold. -/
def hasAtLeast (r : Report) (threshold : Severity) : Bool :=
  r.findings.any (·.severity.atLeast threshold)

/-- How many findings reach the threshold. -/
def countAtLeast (r : Report) (threshold : Severity) : Nat :=
  r.findings.countP (·.severity.atLeast threshold)

/-! ## Laws -/

/-- A report of findings consists of these, and of the score for some sum of points. -/
theorem ofFindings_eq_some_iff {findings : List Finding} {r : Report} :
    ofFindings? findings = some r ↔
      ∃ deduction, deduction? findings = some deduction ∧ withDeduction findings deduction = r :=
  Option.map_eq_some_iff

/-- No report has a score above one hundred. -/
theorem score_le {findings : List Finding} {r : Report} (h : ofFindings? findings = some r) :
    r.score ≤ maxScore := by
  obtain ⟨deduction, _, rfl⟩ := ofFindings_eq_some_iff.1 h
  change remaining deduction ≤ maxScore
  rw [remaining]
  split
  · decide
  · next hbelow => exact UInt32.sub_le (UInt32.not_lt.1 hbelow)

/-- A threshold is reached exactly if some finding reaches it. -/
theorem hasAtLeast_iff {r : Report} {threshold : Severity} :
    r.hasAtLeast threshold = true ↔ ∃ f ∈ r.findings, f.severity.atLeast threshold = true := by
  simp [hasAtLeast]

/-- A threshold is reached exactly if the findings that reach it are more than none. -/
theorem countAtLeast_pos_iff {r : Report} {threshold : Severity} :
    0 < r.countAtLeast threshold ↔ r.hasAtLeast threshold = true := by
  simp [countAtLeast, hasAtLeast, List.countP_pos_iff]

end Report

end SiteAudit

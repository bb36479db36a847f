import SiteAudit.Text.Ascii
import SiteAudit.Text.Blank

/-!
# Severities

How urgent a finding is. Severities are ordered.

## Main results

* `atLeast_trans`, `atLeast_total` — the order is a total order.
-/

namespace SiteAudit

/-- How urgent a finding is, from the least to the most. -/
inductive Severity where
  | informational
  | recommended
  | critical
deriving Repr, DecidableEq

namespace Severity

/-- Every severity, from the least to the most urgent. -/
def all : List Severity := [informational, recommended, critical]

/-- The position in the order. -/
def rank : Severity → Nat
  | informational => 0
  | recommended => 1
  | critical => 2

/-- Whether the first severity is as urgent as the second, or more. -/
def atLeast (s threshold : Severity) : Bool := threshold.rank ≤ s.rank

/-- The name of a severity. -/
def name : Severity → String
  | informational => "informational"
  | recommended => "recommended"
  | critical => "critical"

/-- The severity with exactly this name. -/
def ofName? (name : String) : Option Severity := all.find? (·.name == name)

/-- The severity of a text; blanks around it and ASCII letter case do not count. -/
def parse? (text : String) : Option Severity :=
  all.find? fun s => Text.sameAsciiFold s.name (Text.trim text)

/-- The more urgent of two severities. -/
def max (a b : Severity) : Severity := if b.atLeast a then b else a

theorem ofName_name (s : Severity) : ofName? s.name = some s := by cases s <;> decide

theorem atLeast_trans {a b c : Severity} (hab : a.atLeast b = true) (hbc : b.atLeast c = true) :
    a.atLeast c = true := by
  simp only [atLeast, decide_eq_true_eq] at *
  omega

theorem atLeast_total (a b : Severity) : a.atLeast b = true ∨ b.atLeast a = true := by
  simp only [atLeast, decide_eq_true_eq]
  omega

end Severity

end SiteAudit

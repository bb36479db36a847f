/-!
# Ranges of code points

Properties of characters (letters, wide characters, ...) are given as
tables of code point ranges. This module is the lookup; the tables
themselves are in `SiteAudit.Text.Letter`, `SiteAudit.Text.LowerCase`,
`SiteAudit.Text.Columns` and `SiteAudit.Text.LineColumns`.
-/

namespace SiteAudit.Text

/-- Code point ranges, both ends of each included. -/
abbrev Ranges := List (Nat × Nat)

/-- Whether the character lies in one of the ranges. -/
def Ranges.holds (table : Ranges) (c : Char) : Bool :=
  table.any fun range => range.1 ≤ c.toNat && c.toNat ≤ range.2

theorem Ranges.holds_eq_true_iff {table : Ranges} {c : Char} :
    table.holds c = true ↔ ∃ range ∈ table, range.1 ≤ c.toNat ∧ c.toNat ≤ range.2 := by
  simp [Ranges.holds]

end SiteAudit.Text

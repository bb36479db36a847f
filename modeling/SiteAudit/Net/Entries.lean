import SiteAudit.Net.Block

/-!
# Lists of address entries

A rule lists addresses as texts: blocks in slash notation and single
addresses. Entries that cannot be read select nothing.

## Main results

* `anyCover_iff`, `anyOverlap_iff`, `anyContain_iff` — what the lists say, by
  an entry that can be read.
-/

namespace SiteAudit.Net.Entries

/-- The blocks of the entries that can be read. -/
def blocks (entries : List String) : List Block := entries.filterMap Block.ofEntry?

/-- Whether one of the entries shares addresses with the block. -/
def anyOverlap (entries : List String) (b : Block) : Bool := (blocks entries).any (·.overlaps b)

/-- Whether one of the entries covers the block. -/
def anyCover (entries : List String) (b : Block) : Bool := (blocks entries).any (·.covers b)

/-- Whether an address lies in one of the entries. -/
def anyContain (entries : List String) (a : Address) : Bool :=
  (blocks entries).any (·.contains a)

theorem anyOverlap_iff {entries : List String} {b : Block} :
    anyOverlap entries b = true ↔ ∃ e ∈ blocks entries, e.overlaps b = true := by
  simp [anyOverlap]

theorem anyCover_iff {entries : List String} {b : Block} :
    anyCover entries b = true ↔ ∃ e ∈ blocks entries, e.covers b = true := by
  simp [anyCover]

theorem anyContain_iff {entries : List String} {a : Address} :
    anyContain entries a = true ↔ ∃ e ∈ blocks entries, e.contains a = true := by
  simp [anyContain]

end SiteAudit.Net.Entries

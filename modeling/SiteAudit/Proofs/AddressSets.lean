import SiteAudit.Net.Entries

/-!
# Blocks as sets of addresses

A block starts at a multiple of its size, and sizes are powers of two.  So
two blocks are nested or disjoint: one address in both is enough for the
larger to cover the smaller.  This is what makes the overlap of blocks, which
only asks whether one covers the other, a question about shared addresses.

Lists of entries inherit both directions: a list that covers a block has all
of its addresses, and a list with one of its addresses overlaps it.

## Main results

* `covers_of_contains` — of two blocks with a common address the larger
  covers the smaller.
* `overlaps_of_contains`, `overlaps_iff` — two blocks overlap exactly if they
  have a common address.
* `anyContain_of_anyCover`, `anyOverlap_iff_exists` — the same for lists of
  entries.
-/

namespace SiteAudit.Net

namespace Block

/-- The first address of a block, from any address in it. -/
theorem first_eq_of_contains {b : Block} {x : Address} (h : b.contains x = true) :
    b.first = x.bits / b.size * b.size := by
  obtain ⟨_, hfirst, hlast⟩ := contains_iff.1 h
  have hpos := b.size_pos
  have hquot : x.bits / b.size = b.address.bits / b.size := by
    apply Nat.div_eq_of_lt_le
    · exact hfirst
    · rw [Nat.add_mul, Nat.one_mul]
      simp only [last, first] at hlast
      omega
  rw [hquot, first]

/-- Of two blocks of one family, the size of the one with fewer free bits divides the other. -/
theorem size_dvd_size {a b : Block} (h : b.freeBits ≤ a.freeBits) : b.size ∣ a.size :=
  Nat.pow_dvd_pow 2 h

/-- Of two blocks with a common address the larger covers the smaller. -/
theorem covers_of_contains {a b : Block} {x : Address} (hsize : b.freeBits ≤ a.freeBits)
    (ha : a.contains x = true) (hb : b.contains x = true) : a.covers b = true := by
  have hfamily : a.family = b.family :=
    (contains_iff.1 ha).1.trans (contains_iff.1 hb).1.symm
  obtain ⟨k, hk⟩ := size_dvd_size hsize
  have hfirstA := first_eq_of_contains ha
  have hfirstB := first_eq_of_contains hb
  -- In units of `b.size` the address is at `q`, and `a` starts at the multiple of `k` below it.
  have hquot : x.bits / a.size = x.bits / b.size / k := by
    rw [hk, Nat.div_div_eq_div_mul]
  generalize x.bits / b.size = q at hquot hfirstB
  have hstart : a.first = q / k * k * b.size := by
    rw [hfirstA, hquot, hk, Nat.mul_assoc, Nat.mul_comm k]
  have hkpos : 0 < k := by
    apply Nat.pos_of_ne_zero
    intro hzero
    have hpos := a.size_pos
    rw [hk, hzero] at hpos
    omega
  have hlow : q / k * k * b.size ≤ q * b.size :=
    Nat.mul_le_mul_right _ (Nat.div_mul_le_self q k)
  have hhigh : (q + 1) * b.size ≤ (q / k + 1) * k * b.size :=
    Nat.mul_le_mul_right _ (Nat.lt_mul_of_div_lt (Nat.lt_succ_self _) hkpos)
  have hnext : (q / k + 1) * k * b.size = a.first + a.size := by
    rw [hstart, hk, Nat.add_mul, Nat.add_mul, Nat.one_mul, Nat.mul_comm k]
  rw [Nat.add_mul, Nat.one_mul] at hhigh
  have hposA := a.size_pos
  have hposB := b.size_pos
  refine covers_iff.2 ⟨hfamily, ?_, ?_⟩
  · rw [hstart, hfirstB]
    exact hlow
  · simp only [last, hfirstB]
    omega

/-- Two blocks with a common address overlap: they are nested one way or the other. -/
theorem overlaps_of_contains {a b : Block} {x : Address} (ha : a.contains x = true)
    (hb : b.contains x = true) : a.overlaps b = true := by
  rw [overlaps, Bool.or_eq_true]
  rcases Nat.le_total b.freeBits a.freeBits with h | h
  · exact Or.inl (covers_of_contains h ha hb)
  · exact Or.inr (covers_of_contains h hb ha)

/-- Two blocks overlap exactly if they have a common address, and then the first address of one of
them is such an address. -/
theorem overlaps_iff {a b : Block} :
    a.overlaps b = true ↔ ∃ x, a.contains x = true ∧ b.contains x = true := by
  constructor
  · intro h
    rw [overlaps, Bool.or_eq_true] at h
    rcases h with hcovers | hcovers
    · exact ⟨b.network, contains_of_covers hcovers b.contains_first, b.contains_first⟩
    · exact ⟨a.network, a.contains_first, contains_of_covers hcovers a.contains_first⟩
  · rintro ⟨x, ha, hb⟩
    exact overlaps_of_contains ha hb

end Block

namespace Entries

/-- A list that covers a block has all of its addresses. -/
theorem anyContain_of_anyCover {entries : List String} {b : Block} {x : Address}
    (h : anyCover entries b = true) (hx : b.contains x = true) :
    anyContain entries x = true := by
  obtain ⟨e, he, hcovers⟩ := anyCover_iff.1 h
  exact anyContain_iff.2 ⟨e, he, Block.contains_of_covers hcovers hx⟩

/-- A list with an address of a block overlaps the block. -/
theorem anyOverlap_of_anyContain {entries : List String} {b : Block} {x : Address}
    (h : anyContain entries x = true) (hx : b.contains x = true) :
    anyOverlap entries b = true := by
  obtain ⟨e, he, hcontains⟩ := anyContain_iff.1 h
  exact anyOverlap_iff.2 ⟨e, he, Block.overlaps_of_contains hcontains hx⟩

/-- A list overlaps a block exactly if it has one of its addresses. -/
theorem anyOverlap_iff_exists {entries : List String} {b : Block} :
    anyOverlap entries b = true ↔ ∃ x, b.contains x = true ∧ anyContain entries x = true := by
  constructor
  · intro h
    obtain ⟨e, he, hoverlaps⟩ := anyOverlap_iff.1 h
    obtain ⟨x, hx, hb⟩ := Block.overlaps_iff.1 hoverlaps
    exact ⟨x, hb, anyContain_iff.2 ⟨e, he, hx⟩⟩
  · rintro ⟨x, hb, hx⟩
    exact anyOverlap_of_anyContain hx hb

/-- A list without some address of a block does not cover the block. -/
theorem anyCover_eq_false {entries : List String} {b : Block} {x : Address}
    (h : anyContain entries x = false) (hx : b.contains x = true) :
    anyCover entries b = false := by
  rw [Bool.eq_false_iff] at h ⊢
  exact fun hcover => h (anyContain_of_anyCover hcover hx)

/-- A list that does not overlap a block has none of its addresses. -/
theorem anyContain_eq_false {entries : List String} {b : Block} {x : Address}
    (h : anyOverlap entries b = false) (hx : b.contains x = true) :
    anyContain entries x = false := by
  rw [Bool.eq_false_iff] at h ⊢
  exact fun hcontain => h (anyOverlap_of_anyContain hcontain hx)

end Entries

end SiteAudit.Net

import SiteAudit.Proofs.Comparisons
import SiteAudit.Proofs.TrimmedTexts

/-!
# Port specifications as sets of ports

A specification stands for the ports that its ranges have, and containment of two
specifications is meant to be inclusion of their ports.  It is decided range by
range: each range of the inner specification has to lie in one range of the outer.

What is found to be contained is included.  The converse fails where an inner range
needs two outer ones together, as `3-8` does in `1-5,6-10`.  Ranges may overlap and
stand in any order, so the question is which outer specifications are safe.  They are
those in which any two ranges without a gap between them are covered by a third one.
There a walk along an inner range, port by port, never leaves the outer ranges that
start early enough: where one of them ends, the next port is in a range that touches
it, and a range that covers both goes on.  In every other specification two ranges
that touch are enough to make up an inner range that is missed.

## Main results

* `PortRange.ranges_text` — each range is the only one of some specification.
* `PortSpec.includes_decimal_iff` — the ports of a specification, by number.
* `PortSpec.exists_covers_of_subset` — the walk along a range.
* `PortSpec.contains_exact_iff` — when containment is inclusion of ports.
* `PortSpec.split_range_missed` — an inclusion that is not seen.
-/

namespace SiteAudit

/-! ## Numbers and ranges as texts -/

theorem Numeral.not_mem_write {n : Nat} {c : Char} (hc : c.isDigit = false) : c ∉ write 10 n := by
  intro hmem
  rw [isDigit_of_mem_write hmem] at hc
  cases hc

namespace PortSpec

/-- The numeral of a port is read as this port. -/
theorem port_write {port : Nat} (h : port ≤ maxPort) :
    port? (Numeral.write 10 port) = some port := by
  have hsign : (Numeral.write 10 port).head? ≠ some '+' := fun hplus =>
    Numeral.not_mem_write (by decide) (List.mem_of_mem_head? hplus)
  rw [port?, Text.trimChars_of_noBlanks (Numeral.noBlanks_write port), Numeral.unsigned?,
    if_neg hsign, Numeral.digits_write]
  simp [h]

/-- The ports of a specification, each given by its numeral. -/
theorem includes_decimal_iff {spec : String} {ranges : List PortRange}
    (hspec : ranges? spec = some ranges) {port : Nat} (h : port ≤ maxPort) :
    includes spec (Numeral.decimal port) = true ↔ ∃ r ∈ ranges, r.first ≤ port ∧ port ≤ r.last := by
  have hport : port? (Numeral.decimal port).toList = some port := by
    rw [Numeral.decimal, String.toList_ofList, port_write h]
  rw [Scope.includes_iff, hport, hspec]
  simp

end PortSpec

namespace PortRange

/-- The range as a specification: both ports with a dash between them. -/
def text (r : PortRange) : String :=
  String.ofList (Numeral.write 10 r.first ++ '-' :: Numeral.write 10 r.last)

/-- The specification of a range has this range and no other one. -/
theorem ranges_text (r : PortRange) : PortSpec.ranges? r.text = some [r] := by
  have hcomma : ',' ∉ Numeral.write 10 r.first ++ '-' :: Numeral.write 10 r.last := by
    rw [List.mem_append, List.mem_cons]
    rintro (hmem | heq | hmem)
    · exact Numeral.not_mem_write (by decide) hmem
    · exact absurd heq (by decide)
    · exact Numeral.not_mem_write (by decide) hmem
  have hblanks : Text.NoBlanks (Numeral.write 10 r.first ++ '-' :: Numeral.write 10 r.last) :=
    (Numeral.noBlanks_write _).append
      ((show Text.NoBlanks ['-'] by decide).append (Numeral.noBlanks_write _))
  have hentries : PortSpec.entries r.text =
      [Numeral.write 10 r.first ++ '-' :: Numeral.write 10 r.last] := by
    rw [PortSpec.entries, text, String.toList_ofList, Text.pieces_of_not_mem hcomma,
      List.map_singleton, Text.trimChars_of_noBlanks hblanks]
    simp
  have hfirst : r.first ≤ maxPort := Nat.le_trans r.ordered r.bounded
  have hentry : PortSpec.entry? (Numeral.write 10 r.first ++ '-' :: Numeral.write 10 r.last) =
      some r := by
    rw [PortSpec.entry?, Text.cut_append (Numeral.not_mem_write (by decide))]
    simp [PortSpec.port_write hfirst, PortSpec.port_write r.bounded, between?, r.ordered, r.bounded]
  rw [PortSpec.ranges?, hentries]
  simp [hentry]

/-! ## Ranges without a gap -/

/-- Whether no port is between two ranges: they overlap, or one follows the other at once. -/
def touches (a b : PortRange) : Bool := a.first ≤ b.last + 1 && b.first ≤ a.last + 1

/-- The ports from the first one of either range to the last one. -/
def hull (a b : PortRange) : PortRange where
  first := min a.first b.first
  last := max a.last b.last
  ordered := by
    have := a.ordered
    omega
  bounded := by
    have := a.bounded
    have := b.bounded
    omega

theorem covers_iff {outer inner : PortRange} :
    outer.covers inner = true ↔ outer.first ≤ inner.first ∧ inner.last ≤ outer.last := by
  simp [covers]

theorem touches_iff {a b : PortRange} :
    a.touches b = true ↔ a.first ≤ b.last + 1 ∧ b.first ≤ a.last + 1 := by
  simp [touches]

/-- A range that covers the hull of two ranges covers both. -/
theorem covers_of_covers_hull {a b c : PortRange} (h : c.covers (a.hull b) = true) :
    c.covers a = true ∧ c.covers b = true := by
  rw [covers_iff] at h
  simp only [hull] at h
  rw [covers_iff, covers_iff]
  omega

/-- Two ranges without a gap between them have all ports of their hull. -/
theorem mem_of_mem_hull {a b : PortRange} (h : a.touches b = true) {port : Nat}
    (hfirst : (a.hull b).first ≤ port) (hlast : port ≤ (a.hull b).last) :
    (a.first ≤ port ∧ port ≤ a.last) ∨ (b.first ≤ port ∧ port ≤ b.last) := by
  rw [touches_iff] at h
  simp only [hull] at hfirst hlast
  omega

end PortRange

namespace PortSpec

/-- Any two ranges without a gap between them are covered by one of the ranges. -/
def IsJoined (ranges : List PortRange) : Prop :=
  ∀ a ∈ ranges, ∀ b ∈ ranges, a.touches b = true →
    ∃ c ∈ ranges, c.covers a = true ∧ c.covers b = true

instance (ranges : List PortRange) : Decidable (IsJoined ranges) :=
  inferInstanceAs (Decidable (∀ a ∈ ranges, ∀ b ∈ ranges, _ → _))

/-! ## Containment and inclusion -/

/-- Containment, by the ranges of both specifications. -/
theorem contains_eq_true_iff {outer inner : String} {around inside : List PortRange}
    (houter : ranges? outer = some around) (hinner : ranges? inner = some inside) :
    contains outer inner = true ↔ ∀ r ∈ inside, ∃ o ∈ around, o.covers r = true := by
  simp [contains, houter, hinner]

/-- In joined ranges the walk along a range whose ports they all have stays in ranges that start
early enough, and so it ends in one that covers the range. -/
theorem exists_covers_of_subset {ranges : List PortRange} (hjoined : IsJoined ranges)
    {r : PortRange}
    (hports : ∀ port, r.first ≤ port → port ≤ r.last →
      ∃ o ∈ ranges, o.first ≤ port ∧ port ≤ o.last) :
    ∃ o ∈ ranges, o.covers r = true := by
  have hwalk : ∀ steps, r.first + steps ≤ r.last →
      ∃ o ∈ ranges, o.first ≤ r.first ∧ r.first + steps ≤ o.last := by
    intro steps
    induction steps with
    | zero =>
        intro hle
        exact hports r.first (Nat.le_refl _) hle
    | succ steps ih =>
        intro hle
        obtain ⟨o, ho, hfirst, hlast⟩ := ih (by omega)
        by_cases hend : r.first + (steps + 1) ≤ o.last
        · exact ⟨o, ho, hfirst, hend⟩
        · -- The range ends here, and the next port is in one that touches it.
          obtain ⟨s, hs, hbefore, hafter⟩ := hports (r.first + (steps + 1)) (by omega) hle
          have htouches : o.touches s = true := PortRange.touches_iff.2 ⟨by omega, by omega⟩
          obtain ⟨c, hc, hco, hcs⟩ := hjoined o ho s hs htouches
          rw [PortRange.covers_iff] at hco hcs
          exact ⟨c, hc, by omega, by omega⟩
  have hordered := r.ordered
  obtain ⟨o, ho, hfirst, hlast⟩ := hwalk (r.last - r.first) (by omega)
  exact ⟨o, ho, PortRange.covers_iff.2 ⟨hfirst, by omega⟩⟩

/-- Every port of the inner specification is one of the outer. -/
def IsIncluded (outer inner : String) : Prop :=
  ∀ port ≤ maxPort, includes inner (Numeral.decimal port) = true →
    includes outer (Numeral.decimal port) = true

/-- What is found to be contained is included. -/
theorem isIncluded_of_contains {outer inner : String} (h : contains outer inner = true) :
    IsIncluded outer inner :=
  fun port _ hport =>
    Scope.byPorts_correct.contains_sound outer inner h (Numeral.decimal port) hport

/-- What joined ranges include lies in them range by range. -/
theorem contains_of_isIncluded {outer inner : String} {around inside : List PortRange}
    (houter : ranges? outer = some around) (hinner : ranges? inner = some inside)
    (hjoined : IsJoined around) (h : IsIncluded outer inner) : contains outer inner = true := by
  rw [contains_eq_true_iff houter hinner]
  intro r hr
  refine exists_covers_of_subset hjoined fun port hfirst hlast => ?_
  have hport : port ≤ maxPort := Nat.le_trans hlast r.bounded
  have hincludes : includes inner (Numeral.decimal port) = true :=
    (includes_decimal_iff hinner hport).2 ⟨r, hr, hfirst, hlast⟩
  exact (includes_decimal_iff houter hport).1 (h port hport hincludes)

/-- The hull of two ranges without a gap is included wherever the two ranges are. -/
theorem isIncluded_hull {outer : String} {around : List PortRange}
    (houter : ranges? outer = some around) {a b : PortRange} (ha : a ∈ around) (hb : b ∈ around)
    (htouches : a.touches b = true) : IsIncluded outer (a.hull b).text := by
  intro port hport hincludes
  obtain ⟨r, hr, hfirst, hlast⟩ :=
    (includes_decimal_iff (PortRange.ranges_text _) hport).1 hincludes
  rw [List.mem_singleton] at hr
  subst hr
  rw [includes_decimal_iff houter hport]
  rcases PortRange.mem_of_mem_hull htouches hfirst hlast with hmem | hmem
  · exact ⟨a, ha, hmem⟩
  · exact ⟨b, hb, hmem⟩

/-- **When containment is inclusion of ports.**  Take a specification that can be read.  Whatever
other specification it is found to contain has only ports that the first one has.  And it is found
to contain every specification of which that is true exactly if any two of its ranges without a gap
between them are covered by one of its ranges. -/
theorem contains_exact_iff {outer : String} {around : List PortRange}
    (houter : ranges? outer = some around) :
    (∀ inner, (ranges? inner).isSome = true → contains outer inner = true →
        IsIncluded outer inner) ∧
      ((∀ inner, (ranges? inner).isSome = true →
          (contains outer inner = true ↔ IsIncluded outer inner)) ↔ IsJoined around) := by
  refine ⟨fun inner _ h => isIncluded_of_contains h, fun hexact => ?_, fun hjoined => ?_⟩
  · intro a ha b hb htouches
    have hread : ranges? (a.hull b).text = some [a.hull b] := PortRange.ranges_text _
    have hcontains : contains outer (a.hull b).text = true :=
      (hexact _ (by rw [hread]; rfl)).2 (isIncluded_hull houter ha hb htouches)
    obtain ⟨c, hc, hcovers⟩ :=
      (contains_eq_true_iff houter hread).1 hcontains _ (List.mem_singleton_self _)
    exact ⟨c, hc, PortRange.covers_of_covers_hull hcovers⟩
  · intro inner hinner
    obtain ⟨inside, hinside⟩ := Option.isSome_iff_exists.1 hinner
    exact ⟨isIncluded_of_contains, contains_of_isIncluded houter hinside hjoined⟩

/-- Ranges that overlap and touch, out of order and with blanks, each two of them inside a third
one. -/
theorem contains_exact_iff_webPorts :
    ranges? " 8080-8090, 80 ,8000-8099,8095-8099" =
        some [⟨8080, 8090, by decide, by decide⟩, ⟨80, 80, by decide, by decide⟩,
          ⟨8000, 8099, by decide, by decide⟩, ⟨8095, 8099, by decide, by decide⟩] ∧
      IsIncluded " 8080-8090, 80 ,8000-8099,8095-8099" "8085-8097,80" := by
  have hread : ranges? " 8080-8090, 80 ,8000-8099,8095-8099" =
      some [⟨8080, 8090, by decide, by decide⟩, ⟨80, 80, by decide, by decide⟩,
        ⟨8000, 8099, by decide, by decide⟩, ⟨8095, 8099, by decide, by decide⟩] := by decide
  have hexact := (contains_exact_iff hread).2.2 (by decide)
  exact ⟨hread, (hexact "8085-8097,80" (by decide)).1 (by decide)⟩

/-- **An inclusion that is not seen.**  All ports from three to eight are in two ranges that follow
each other, and the specification of the two is not found to contain them, since neither range has
them all. -/
theorem split_range_missed :
    ranges? "1-5,6-10" = some [⟨1, 5, by decide, by decide⟩, ⟨6, 10, by decide, by decide⟩] ∧
      ranges? "3-8" = some [⟨3, 8, by decide, by decide⟩] ∧
      IsIncluded "1-5,6-10" "3-8" ∧ contains "1-5,6-10" "3-8" = false ∧
      ¬(contains "1-5,6-10" "3-8" = true ↔ IsIncluded "1-5,6-10" "3-8") := by
  have houter : ranges? "1-5,6-10" =
      some [⟨1, 5, by decide, by decide⟩, ⟨6, 10, by decide, by decide⟩] := by decide
  have hinner : ranges? "3-8" = some [⟨3, 8, by decide, by decide⟩] := by decide
  have hincluded : IsIncluded "1-5,6-10" "3-8" := by
    intro port hport hincludes
    rw [includes_decimal_iff hinner hport] at hincludes
    rw [includes_decimal_iff houter hport]
    simp only [List.mem_cons, List.not_mem_nil, or_false, exists_eq_or_imp, exists_eq_left]
      at hincludes ⊢
    omega
  have hmissed : contains "1-5,6-10" "3-8" = false := by decide
  refine ⟨houter, hinner, hincluded, hmissed, fun hexact => ?_⟩
  rw [hexact.2 hincluded] at hmissed
  cases hmissed

end PortSpec

end SiteAudit

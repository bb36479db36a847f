import SiteAudit.Proofs.CommonTraffic
import SiteAudit.Proofs.ProtocolNames

/-!
# What the comparisons of protocols say

Two selectors overlap if both select some protocol, and one contains the other if it
selects every protocol that the other selects.  Neither is decided by looking at
protocols: there is a formula for each of the four cases of inversion, about the two
protocols that are named.

That a protocol which both select makes them overlap, and that nothing is left out by a
selector that contains another, needs only that two protocols cover each other or have
nothing in common.  For the converse a protocol has to be found.  Where one protocol does
not cover a second one, some single protocol is covered by the second only; if the second
stands for `tcp` and `udp`, it is one of these.  Where two selectors are inverted, it
takes a protocol that neither of the two covers: of `tcp`, `icmp` and `icmpv6` each of the
two covers one at most.  So what is found is always a single protocol, and one that can be
written in a rule.

The selector of no protocol at all, inverted `all`, has nothing that any other one could
leave out.  A selector that is not inverted is not found to contain it unless it selects
everything.

## Main results

* `Protocol.exists_single_of_not_covers` — what is covered by one protocol only.
* `Protocol.exists_single_uncovered` — what is covered by neither of two.
* `ProtocolMatch.overlaps_iff`, `ProtocolMatch.contains_iff` — both relations, within any
  class of protocols that has the single ones.
* `ProtocolMatch.relations_exact` — both relations, for all protocols that are read.
-/

namespace SiteAudit

namespace Protocol

variable {p q : Protocol}

/-- The protocol is what some text is read as. -/
def IsRead (p : Protocol) : Prop := ∃ text, parse text = p

/-- The protocol is one and not a name for several. -/
def IsSingle (p : Protocol) : Prop := p ≠ .all ∧ p ≠ .tcpUdp

instance (p : Protocol) : Decidable p.IsSingle := inferInstanceAs (Decidable (_ ∧ _))

theorem isRead_of_known (hp : p ∈ known) : p.IsRead := ⟨p.name, parse_name_of_known hp⟩

/-! ## Protocols that are covered by one and not by another -/

/-- Of three protocols that have nothing in common, one that is not `all` leaves out two. -/
theorem covers_of_three (hp : p ≠ .all) :
    (p.covers .tcp = false ∧ p.covers .icmp = false) ∨
      (p.covers .tcp = false ∧ p.covers .icmpv6 = false) ∨
      (p.covers .icmp = false ∧ p.covers .icmpv6 = false) := by
  cases p with
  | all => exact absurd rfl hp
  | tcp | tcpUdp => exact Or.inr (Or.inr ⟨rfl, rfl⟩)
  | icmp => exact Or.inr (Or.inl ⟨rfl, rfl⟩)
  | udp | icmpv6 | other _ => exact Or.inl ⟨rfl, rfl⟩

/-- Two protocols that each leave something out leave out a common one. -/
theorem exists_single_uncovered (hp : p ≠ .all) (hq : q ≠ .all) :
    ∃ t, t.IsRead ∧ t.IsSingle ∧ p.covers t = false ∧ q.covers t = false := by
  have hfound : ∃ t ∈ [tcp, icmp, icmpv6], p.covers t = false ∧ q.covers t = false := by
    rcases covers_of_three hp with ⟨hp₁, hp₂⟩ | ⟨hp₁, hp₂⟩ | ⟨hp₁, hp₂⟩ <;>
      rcases covers_of_three hq with ⟨hq₁, hq₂⟩ | ⟨hq₁, hq₂⟩ | ⟨hq₁, hq₂⟩ <;> simp [*]
  obtain ⟨t, ht, huncovered⟩ := hfound
  have hknown : ∀ t ∈ [tcp, icmp, icmpv6], t ∈ known ∧ t.IsSingle := by decide
  exact ⟨t, isRead_of_known (hknown t ht).1, (hknown t ht).2, huncovered⟩

/-- Where one protocol does not cover another, a single one that the other covers tells. -/
theorem exists_single_of_not_covers (hread : q.IsRead) (h : p.covers q = false) :
    ∃ t, t.IsRead ∧ t.IsSingle ∧ q.covers t = true ∧ p.covers t = false := by
  by_cases hall : q = .all
  · subst hall
    have hp : p ≠ .all := by
      rintro rfl
      cases h
    obtain ⟨t, ht, hsingle, hleft, _⟩ := exists_single_uncovered hp hp
    exact ⟨t, ht, hsingle, rfl, hleft⟩
  by_cases hboth : q = .tcpUdp
  · subst hboth
    cases hp : p.covers .tcp with
    | false => exact ⟨.tcp, isRead_of_known (by decide), by decide, rfl, hp⟩
    | true =>
        -- What covers `tcp` but not both covers nothing else.
        have hudp : p.covers .udp = false := by
          rcases covers_eq_true_iff.1 hp with rfl | rfl | ⟨rfl, _⟩
          · rfl
          · cases h
          · cases h
        exact ⟨.udp, isRead_of_known (by decide), by decide, rfl, hudp⟩
  · exact ⟨q, hread, ⟨hall, hboth⟩, covers_self q, h⟩

/-- Every protocol covers a single one. -/
theorem exists_single_covered (hread : p.IsRead) :
    ∃ t, t.IsRead ∧ t.IsSingle ∧ p.covers t = true := by
  by_cases hsingle : p.IsSingle
  · exact ⟨p, hread, hsingle, covers_self p⟩
  · refine ⟨.tcp, isRead_of_known (by decide), by decide, ?_⟩
    rcases Decidable.not_and_iff_or_not.1 hsingle with hall | hboth
    · rw [Decidable.not_not.1 hall]
      rfl
    · rw [Decidable.not_not.1 hboth]
      rfl

/-- If one of two protocols covers the other, both cover a single one. -/
theorem exists_single_shared (hp : p.IsRead) (hq : q.IsRead)
    (h : p.covers q = true ∨ q.covers p = true) :
    ∃ t, t.IsRead ∧ t.IsSingle ∧ p.covers t = true ∧ q.covers t = true := by
  rcases h with hpq | hqp
  · obtain ⟨t, ht, hsingle, hcovers⟩ := exists_single_covered hq
    exact ⟨t, ht, hsingle, covers_of_covers hpq hcovers, hcovers⟩
  · obtain ⟨t, ht, hsingle, hcovers⟩ := exists_single_covered hp
    exact ⟨t, ht, hsingle, hcovers, covers_of_covers hqp hcovers⟩

end Protocol

namespace ProtocolMatch

variable {p q : Protocol} {i j : Bool}

/-! ## Overlap and containment -/

/-- Selectors that overlap share a single protocol. -/
theorem exists_single_of_overlaps (hp : p.IsRead) (hq : q.IsRead)
    (h : overlaps ⟨p, i⟩ ⟨q, j⟩ = true) :
    ∃ t, t.IsRead ∧ t.IsSingle ∧ admits ⟨p, i⟩ t = true ∧ admits ⟨q, j⟩ t = true := by
  cases i <;> cases j <;>
    simp only [overlaps, admits, Bool.bne_false, Bool.bne_true, Bool.not_eq_true',
      Bool.or_eq_true, Bool.and_eq_true, bne_iff_ne] at *
  · exact Protocol.exists_single_shared hp hq h
  · -- Only the second one is inverted.
    exact Protocol.exists_single_of_not_covers hp h
  · -- Only the first one is.
    obtain ⟨t, ht, hsingle, hcovers, hleft⟩ := Protocol.exists_single_of_not_covers hq h
    exact ⟨t, ht, hsingle, hleft, hcovers⟩
  · exact Protocol.exists_single_uncovered h.1 h.2

/-- The inner selector selects nothing, and the outer one is not inverted and leaves something
out. -/
def IsDeniedEmpty (outer inner : ProtocolMatch) : Prop :=
  inner = ⟨.all, true⟩ ∧ outer.inverted = false ∧ outer.protocol ≠ .all

/-- Where containment is denied, a single protocol tells, unless the inner selector is empty. -/
theorem exists_single_of_not_contains (hp : p.IsRead) (hq : q.IsRead)
    (h : contains ⟨p, i⟩ ⟨q, j⟩ = false) :
    IsDeniedEmpty ⟨p, i⟩ ⟨q, j⟩ ∨
      ∃ t, t.IsRead ∧ t.IsSingle ∧ admits ⟨q, j⟩ t = true ∧ admits ⟨p, i⟩ t = false := by
  cases i <;> cases j <;>
    simp only [contains, admits, Bool.bne_false, Bool.bne_true, Bool.not_eq_true',
      Bool.not_eq_false', Bool.or_eq_true, beq_eq_false_iff_ne] at *
  · exact Or.inr (Protocol.exists_single_of_not_covers hq h)
  · -- Only the inner one is inverted, and it may be empty.
    by_cases hempty : q = .all
    · exact Or.inl ⟨by rw [hempty], rfl, h⟩
    · exact Or.inr (Protocol.exists_single_uncovered hempty h)
  · -- Only the outer one is.
    obtain ⟨t, ht, hsingle, hcovers, hcovered⟩ := Protocol.exists_single_shared hp hq h
    exact Or.inr ⟨t, ht, hsingle, hcovered, hcovers⟩
  · obtain ⟨t, ht, hsingle, hcovers, hleft⟩ := Protocol.exists_single_of_not_covers hp h
    exact Or.inr ⟨t, ht, hsingle, hleft, hcovers⟩

/-- A selector that is not inverted is found to contain the empty one only if it selects
everything. -/
theorem not_isDeniedEmpty_of_contains {outer inner : ProtocolMatch}
    (h : outer.contains inner = true) : ¬IsDeniedEmpty outer inner := by
  rintro ⟨rfl, hplain, hsome⟩
  rw [contains, hplain] at h
  exact hsome (by simpa using h)

/-- Overlap is a common protocol of any class that has the single ones. -/
theorem overlaps_iff (hp : p.IsRead) (hq : q.IsRead) {inClass : Protocol → Prop}
    (hclass : ∀ t : Protocol, t.IsRead → t.IsSingle → inClass t) :
    overlaps ⟨p, i⟩ ⟨q, j⟩ = true ↔
      ∃ t, inClass t ∧ admits ⟨p, i⟩ t = true ∧ admits ⟨q, j⟩ t = true := by
  constructor
  · intro h
    obtain ⟨t, ht, hsingle, hadmits⟩ := exists_single_of_overlaps hp hq h
    exact ⟨t, hclass t ht hsingle, hadmits⟩
  · rintro ⟨t, _, hpt, hqt⟩
    exact overlaps_of_admits hpt hqt

/-- Containment is inclusion within any class that has the single protocols. -/
theorem contains_iff (hp : p.IsRead) (hq : q.IsRead) {inClass : Protocol → Prop}
    (hclass : ∀ t : Protocol, t.IsRead → t.IsSingle → inClass t) :
    contains ⟨p, i⟩ ⟨q, j⟩ = true ↔
      (∀ t, inClass t → admits ⟨q, j⟩ t = true → admits ⟨p, i⟩ t = true) ∧
        ¬IsDeniedEmpty ⟨p, i⟩ ⟨q, j⟩ := by
  constructor
  · intro h
    exact ⟨fun t _ ht => admits_of_contains h ht, not_isDeniedEmpty_of_contains h⟩
  · rintro ⟨hincluded, hnotDenied⟩
    apply Bool.of_not_eq_false
    intro h
    obtain ⟨t, ht, hsingle, hinner, houter⟩ :=
      (exists_single_of_not_contains hp hq h).resolve_left hnotDenied
    rw [hincluded t (hclass t ht hsingle) hinner] at houter
    cases houter

/-- **The comparisons of protocols are exact.**  Take any two protocols as they are read, each plain
or inverted.  They overlap exactly if both select some protocol.  One contains the other exactly if
it selects every protocol that the other selects, except that the empty selector is not found in a
plain one that leaves something out.  In both it makes no difference whether all protocols that can
be read are meant or only the single ones. -/
theorem relations_exact (a b : String) (i j : Bool) :
    let p : ProtocolMatch := ⟨.parse a, i⟩
    let q : ProtocolMatch := ⟨.parse b, j⟩
    (p.overlaps q = true ↔
        ∃ t : Protocol, t.IsRead ∧ p.admits t = true ∧ q.admits t = true) ∧
      (p.overlaps q = true ↔
        ∃ t : Protocol, (t.IsRead ∧ t.IsSingle) ∧ p.admits t = true ∧ q.admits t = true) ∧
      (p.contains q = true ↔
        (∀ t : Protocol, t.IsRead → q.admits t = true → p.admits t = true) ∧
          ¬IsDeniedEmpty p q) ∧
      (p.contains q = true ↔
        (∀ t : Protocol, t.IsRead ∧ t.IsSingle → q.admits t = true → p.admits t = true) ∧
          ¬IsDeniedEmpty p q) := by
  intro p q
  have ha : (Protocol.parse a).IsRead := ⟨a, rfl⟩
  have hb : (Protocol.parse b).IsRead := ⟨b, rfl⟩
  exact ⟨overlaps_iff ha hb fun _ ht _ => ht, overlaps_iff ha hb fun _ ht hsingle => ⟨ht, hsingle⟩,
    contains_iff ha hb fun _ ht _ => ht, contains_iff ha hb fun _ ht hsingle => ⟨ht, hsingle⟩⟩

/-- A plain `gre` is denied the empty selector, of which it has everything. -/
example : IsDeniedEmpty ⟨.other "gre", false⟩ ⟨.all, true⟩ ∧
    contains ⟨.other "gre", false⟩ ⟨.all, true⟩ = false :=
  ⟨⟨rfl, rfl, by decide⟩, rfl⟩

end ProtocolMatch

end SiteAudit

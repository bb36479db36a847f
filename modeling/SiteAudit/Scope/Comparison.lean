/-!
# Comparing selections

A selection is a list of things, or everything that is not on the list. Two
lists are compared by two questions: does one contain the other, and do they
overlap? From the answers for the lists as they stand follow those for
inverted ones. What cannot be told is answered with care: an overlap is
assumed, containment is denied.

## Main results

* `invertedContains_sound` — containment is never claimed wrongly, if the
  answers for plain lists are right.
* `invertedOverlaps_complete` — an overlap is never missed, if the answers
  for plain lists are right.
-/

namespace SiteAudit.Scope

/-- Two questions about lists of things that are selected. -/
structure Comparison (α : Type) where
  contains : α → α → Bool
  overlaps : α → α → Bool

/-- A list of things, or everything but the things on it. -/
structure Selection (α : Type) where
  list : α
  inverted : Bool

/-- Whether a selection has a thing, by what it means that a list has it. -/
def Selection.Has (s : Selection α) (has : α → β → Prop) (x : β) : Prop :=
  if s.inverted then ¬has s.list x else has s.list x

namespace Comparison

variable {α : Type}

/-- Whether the inner selection is known to lie in the outer one. -/
def invertedContains (c : Comparison α) (outer inner : Selection α) : Bool :=
  match outer.inverted, inner.inverted with
  | false, false => c.contains outer.list inner.list
  | true, false => !c.overlaps outer.list inner.list
  | true, true => c.contains inner.list outer.list
  | false, true => false

/-- Whether two selections may have something in common. -/
def invertedOverlaps (c : Comparison α) (a b : Selection α) : Bool :=
  match a.inverted, b.inverted with
  | false, false => c.overlaps a.list b.list
  | true, false => !c.contains a.list b.list
  | false, true => !c.contains b.list a.list
  | true, true => true

/-! ## Laws -/

/-- Containment is never claimed wrongly, if the answers for plain lists are right. -/
theorem invertedContains_sound {c : Comparison α} {has : α → β → Prop}
    (sound : ∀ outer inner, c.contains outer inner = true → ∀ x, has inner x → has outer x)
    (complete : ∀ a b x, has a x → has b x → c.overlaps a b = true)
    {outer inner : Selection α} (h : c.invertedContains outer inner = true) {x : β}
    (hx : inner.Has has x) : outer.Has has x := by
  obtain ⟨o, oi⟩ := outer
  obtain ⟨i, ii⟩ := inner
  cases oi <;> cases ii <;> simp_all [invertedContains, Selection.Has]
  · exact sound _ _ h _ hx
  · intro ho
    simp [complete o i x ho hx] at h
  · exact fun ho => hx (sound _ _ h _ ho)

/-- An overlap is never missed, if the answers for plain lists are right. -/
theorem invertedOverlaps_complete {c : Comparison α} {has : α → β → Prop}
    (sound : ∀ outer inner, c.contains outer inner = true → ∀ x, has inner x → has outer x)
    (complete : ∀ a b x, has a x → has b x → c.overlaps a b = true)
    {a b : Selection α} {x : β} (ha : a.Has has x) (hb : b.Has has x) :
    c.invertedOverlaps a b = true := by
  obtain ⟨a, ai⟩ := a
  obtain ⟨b, bi⟩ := b
  cases ai <;> cases bi <;> simp_all [invertedOverlaps, Selection.Has]
  · exact complete a b x ha hb
  · exact Bool.eq_false_iff.2 fun h => hb (sound _ _ h _ ha)
  · exact Bool.eq_false_iff.2 fun h => ha (sound _ _ h _ hb)

end Comparison

/-- A list of things as a set: containment and overlap by its elements. -/
def byElements [BEq α] : Comparison (List α) where
  contains outer inner := inner.all outer.contains
  overlaps a b := a.any b.contains

end SiteAudit.Scope

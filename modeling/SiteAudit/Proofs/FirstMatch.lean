import SiteAudit.Firewall.Verdict

/-!
# First match

Rules are tried by index, and rules of the same index in the order in which
they were given.  This module says what that order is without the sort that
produces it: the first rule that satisfies a condition is the one with the
least index and, among those, the least place in the list.

Leaving rules out does not disturb the order of the others.  That is what
turns the evaluator, which filters and then sorts, into one search through
all rules in their order.

## Main results

* `inOrder_filter` — sorting what is left of a list is leaving out from the
  sorted list.
* `find_inOrder_iff` — the first rule in order, by index and place.
* `effective_eq_find` — the deciding rule as a search.
* `effective_eq_some_iff`, `effective_eq_none_iff` — the deciding rule by
  index and place, and when there is none.
-/

namespace SiteAudit.Rule

/-! ## The order of rules -/

/-- Whether a rule comes before another one or shares its index. -/
def precedes (a b : Rule) : Bool := a.index ≤ b.index

theorem precedes_iff {a b : Rule} : a.precedes b = true ↔ a.index ≤ b.index := by
  simp [precedes]

theorem precedes_trans (a b c : Rule) (hab : a.precedes b = true)
    (hbc : b.precedes c = true) : a.precedes c = true := by
  rw [precedes_iff] at *
  exact Int.le_trans hab hbc

theorem precedes_total (a b : Rule) : (a.precedes b || b.precedes a) = true := by
  simpa [precedes_iff] using Int.le_total a.index b.index

theorem inOrder_eq (rules : List Rule) : inOrder rules = rules.mergeSort precedes := rfl

theorem pairwise_inOrder (rules : List Rule) :
    (inOrder rules).Pairwise fun a b => a.index ≤ b.index := by
  have hsorted := List.pairwise_mergeSort precedes_trans precedes_total rules
  rw [← inOrder_eq] at hsorted
  exact hsorted.imp fun h => precedes_iff.1 h

/-- Rules that stand in the order of their index stay as they are. -/
theorem inOrder_of_pairwise {rules : List Rule}
    (h : rules.Pairwise fun a b => a.index ≤ b.index) : inOrder rules = rules := by
  rw [inOrder_eq]
  exact List.mergeSort_of_pairwise (h.imp fun hle => precedes_iff.2 hle)

/-- One more rule at the head of a list goes in front of all rules whose index is not less, and
moves none of the others. -/
theorem inOrder_cons (r : Rule) (rules : List Rule) :
    ∃ front back, inOrder (r :: rules) = front ++ r :: back ∧
      inOrder rules = front ++ back ∧
      (∀ a ∈ front, a.index < r.index) ∧ ∀ b ∈ back, r.index ≤ b.index := by
  obtain ⟨front, back, hcons, hrest, hfront⟩ :=
    List.mergeSort_cons precedes_trans precedes_total r rules
  refine ⟨front, back, hcons, hrest, ?_, ?_⟩
  · intro a ha
    have hnot : r.precedes a = false := by simpa using hfront a ha
    have hlt : ¬r.index ≤ a.index := by simpa [precedes] using hnot
    omega
  · intro b hb
    have hsorted := pairwise_inOrder (r :: rules)
    rw [inOrder_eq, hcons] at hsorted
    have hback := (List.pairwise_append.1 hsorted).2.1
    exact (List.pairwise_cons.1 hback).1 b hb

/-- Where a sorted list is cut before an index, the two parts are determined. -/
theorem append_inj_of_index {n : Int} {front front' back back' : List Rule}
    (h : front ++ back = front' ++ back')
    (hfront : ∀ a ∈ front, a.index < n) (hback : ∀ b ∈ back, n ≤ b.index)
    (hfront' : ∀ a ∈ front', a.index < n) (hback' : ∀ b ∈ back', n ≤ b.index) :
    front = front' ∧ back = back' := by
  induction front generalizing front' with
  | nil =>
      cases front' with
      | nil => exact ⟨rfl, by simpa using h⟩
      | cons a front' =>
          have hmem : a ∈ back := by
            rw [List.nil_append] at h
            simp [h]
          have hle := hback a hmem
          have hlt := hfront' a (by simp)
          omega
  | cons a front ih =>
      cases front' with
      | nil =>
          have hmem : a ∈ back' := by
            rw [List.nil_append] at h
            simp [← h]
          have hle := hback' a hmem
          have hlt := hfront a (by simp)
          omega
      | cons b front' =>
          simp only [List.cons_append, List.cons.injEq] at h
          obtain ⟨hhead, htail⟩ := h
          obtain ⟨hf, hb⟩ := ih htail (fun x hx => hfront x (by simp [hx]))
            (fun x hx => hfront' x (by simp [hx]))
          exact ⟨by rw [hhead, hf], hb⟩

/-- Sorting what is left of a list is leaving out from the sorted list. -/
theorem inOrder_filter (p : Rule → Bool) (rules : List Rule) :
    inOrder (rules.filter p) = (inOrder rules).filter p := by
  induction rules with
  | nil => simp [inOrder_eq]
  | cons r rules ih =>
      obtain ⟨front, back, hcons, hrest, hfront, hback⟩ := inOrder_cons r rules
      rw [hcons, List.filter_append]
      by_cases hr : p r = true
      · obtain ⟨front', back', hcons', hrest', hfront', hback'⟩ :=
          inOrder_cons r (rules.filter p)
        rw [ih, hrest, List.filter_append] at hrest'
        -- Both cuts are made where the index of `r` belongs.
        obtain ⟨hf, hb⟩ := append_inj_of_index hrest'
          (fun a ha => hfront a (List.mem_filter.1 ha).1)
          (fun b hb => hback b (List.mem_filter.1 hb).1) hfront' hback'
        rw [List.filter_cons_of_pos hr, List.filter_cons_of_pos hr, hcons', hf, hb]
      · rw [List.filter_cons_of_neg hr, List.filter_cons_of_neg hr, ih, hrest,
          List.filter_append]

/-! ## The first rule by index and place -/

/-- `r` satisfies the condition, has the least index of all rules that do, and the least place of
all those with this index. -/
def IsFirst (rules : List Rule) (p : Rule → Prop) (r : Rule) : Prop :=
  ∃ i, rules[i]? = some r ∧ p r ∧
    ∀ (j : Nat) (s : Rule), rules[j]? = some s → p s →
      r.index < s.index ∨ (r.index = s.index ∧ i ≤ j)

namespace IsFirst

variable {rules : List Rule} {p q : Rule → Prop} {r s : Rule}

theorem mem (h : IsFirst rules p r) : r ∈ rules := by
  obtain ⟨i, hi, _⟩ := h
  exact List.mem_of_getElem? hi

theorem prop (h : IsFirst rules p r) : p r := by
  obtain ⟨_, _, hp, _⟩ := h
  exact hp

/-- There is at most one first rule. -/
theorem unique (hr : IsFirst rules p r) (hs : IsFirst rules p s) : r = s := by
  obtain ⟨i, hi, hpr, hleast⟩ := hr
  obtain ⟨j, hj, hps, hleast'⟩ := hs
  have hrs := hleast j s hj hps
  have hsr := hleast' i r hi hpr
  have hij : i = j := by omega
  subst hij
  exact Option.some.inj (hi.symm.trans hj)

/-- The first rule stays the first when the condition gets narrower but still holds of it. -/
theorem mono (h : IsFirst rules p r) (hq : q r) (himp : ∀ s ∈ rules, q s → p s) :
    IsFirst rules q r := by
  obtain ⟨i, hi, _, hleast⟩ := h
  exact ⟨i, hi, hq, fun j s hj hs =>
    hleast j s hj (himp s (List.mem_of_getElem? hj) hs)⟩

theorem congr (himp : ∀ s ∈ rules, q s ↔ p s) : IsFirst rules q r ↔ IsFirst rules p r :=
  ⟨fun h => h.mono ((himp r h.mem).1 h.prop) fun s hs => (himp s hs).2,
    fun h => h.mono ((himp r h.mem).2 h.prop) fun s hs => (himp s hs).1⟩

end IsFirst

theorem isFirst_of_find_inOrder {rules : List Rule} {p : Rule → Bool} {r : Rule}
    (h : (inOrder rules).find? p = some r) : IsFirst rules (p · = true) r := by
  -- The sort is stable, so places may be sorted along with the rules.
  let placed := rules.zipIdx.mergeSort (List.zipIdxLE precedes)
  have hmap : placed.map (·.1) = inOrder rules := List.mergeSort_zipIdx
  have hsorted : placed.Pairwise fun a b => List.zipIdxLE precedes a b = true :=
    List.pairwise_mergeSort (List.zipIdxLE_trans precedes_trans)
      (List.zipIdxLE_total precedes_total) _
  have hplaced : ∀ s j, (s, j) ∈ placed ↔ rules[j]? = some s := by
    intro s j
    rw [List.mem_mergeSort, List.mem_zipIdx_iff_getElem?]
  rw [← hmap, List.find?_map] at h
  obtain ⟨⟨r', i⟩, hfind, hr⟩ := Option.map_eq_some_iff.1 h
  change r' = r at hr
  subst hr
  obtain ⟨hp, front, back, hsplit, hfront⟩ := List.find?_eq_some_iff_append.1 hfind
  have hi : rules[i]? = some r' := (hplaced r' i).1 (by rw [hsplit]; simp)
  refine ⟨i, hi, hp, fun j s hj hs => ?_⟩
  have hmem : (s, j) ∈ front ++ (r', i) :: back := hsplit ▸ (hplaced s j).2 hj
  rw [List.mem_append, List.mem_cons] at hmem
  rcases hmem with hmem | hmem | hmem
  · have hnot := hfront _ hmem
    simp [hs] at hnot
  · cases hmem
    exact Or.inr ⟨rfl, Nat.le_refl _⟩
  · rw [hsplit] at hsorted
    have hle := (List.pairwise_cons.1 (List.pairwise_append.1 hsorted).2.1).1 _ hmem
    simp only [List.zipIdxLE, precedes_iff] at hle
    split at hle
    · split at hle
      · have hij : i ≤ j := by simpa using hle
        omega
      · omega
    · simp at hle

/-- The first rule in order that satisfies a condition, by index and place. -/
theorem find_inOrder_iff {rules : List Rule} {p : Rule → Bool} {r : Rule} :
    (inOrder rules).find? p = some r ↔ IsFirst rules (p · = true) r := by
  refine ⟨isFirst_of_find_inOrder, fun h => ?_⟩
  cases hfind : (inOrder rules).find? p with
  | none =>
      have hmem : r ∈ inOrder rules := (inOrder_perm rules).mem_iff.2 h.mem
      have hnot := List.find?_eq_none.1 hfind r hmem
      exact absurd h.prop hnot
  | some s => rw [(isFirst_of_find_inOrder hfind).unique h]

/-! ## The deciding rule -/

theorem allowsAnswersOnly_iff {r : Rule} :
    r.allowsAnswersOnly = true ↔ r.action = .allow ∧ r.stateType = .respondOnly := by
  simp [allowsAnswersOnly, isAllow]

/-- A rule that only lets answers pass does not apply to fresh connections. -/
theorem allowsAnswersOnly_eq_false_of_matchesNew {r : Rule}
    (h : r.matchesNew = true) : r.allowsAnswersOnly = false := by
  rw [Bool.eq_false_iff]
  intro honly
  obtain ⟨_, hrespond⟩ := allowsAnswersOnly_iff.1 honly
  rw [matchesNew_eq_true_iff, hrespond] at h
  simp at h

/-- Whether a rule can decide on the traffic that `applies` describes. -/
def isCandidate (applies : Rule → Bool) (newOnly : Bool) (r : Rule) : Bool :=
  r.enabled && r.action != .unknown && applies r && !(newOnly && r.allowsAnswersOnly)

theorem candidates_eq_filter (rules : List Rule) (applies : Rule → Bool) (newOnly : Bool) :
    candidates rules applies newOnly = rules.filter (isCandidate applies newOnly) := rfl

theorem isCandidate_iff {applies : Rule → Bool} {newOnly : Bool} {r : Rule} :
    isCandidate applies newOnly r = true ↔
      r.enabled = true ∧ r.action ≠ .unknown ∧ applies r = true ∧
        (newOnly = true → r.allowsAnswersOnly = false) := by
  cases newOnly <;> simp [isCandidate, and_assoc]

/-- The deciding rule is the first one, among all rules in order, that can decide. -/
theorem effective_eq_find (rules : List Rule) (applies : Rule → Bool) (newOnly : Bool) :
    (evaluate rules applies newOnly).effective =
      (inOrder rules).find? (isCandidate applies newOnly) := by
  rw [effective_eq_head, candidates_eq_filter, inOrder_filter, List.head?_filter]

variable {rules : List Rule} {applies : Rule → Bool} {newOnly : Bool} {r : Rule}

/-- The deciding rule, by index and place. -/
theorem effective_eq_some_iff :
    (evaluate rules applies newOnly).effective = some r ↔
      IsFirst rules (isCandidate applies newOnly · = true) r := by
  rw [effective_eq_find, find_inOrder_iff]

/-- No rule decides exactly if none can. -/
theorem effective_eq_none_iff :
    (evaluate rules applies newOnly).effective = none ↔
      ∀ s ∈ rules, ¬isCandidate applies newOnly s = true := by
  rw [effective_eq_find, List.find?_eq_none]
  simp only [(inOrder_perm rules).mem_iff]

end SiteAudit.Rule

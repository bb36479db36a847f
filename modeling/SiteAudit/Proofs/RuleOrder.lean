import SiteAudit.Proofs.FirstMatch

/-!
# One order of rules from many lists

A list that is sorted by index is known once the rules of every single index are
known in their order.  So a list of rules may be stored in any way that keeps
rules of the same index in their order: what is tried first, second and third
does not change.

The same fact says where one more rule goes.  It is tried after all rules of a
lesser index and after those of its own index that stand before it in the list,
and the other rules are tried as they were without it.

## Main results

* `reordered_iff` — two lists are the same up to such storage exactly if they
  are tried in the same order.
* `inOrder_insert`, `inOrder_append` — the order with one more rule and without
  it.
* `ComesBefore.sublist_inOrder` — which of two rules is tried first.
* `effective_insert` — the deciding rule is the one there was, or the new one.
-/

namespace SiteAudit.Rule

/-! ## Rules of one index -/

/-- The rules of an index, as they stand in the list. -/
def ofIndex (rules : List Rule) (n : Int) : List Rule := rules.filter (·.index == n)

theorem ofIndex_append (front back : List Rule) (n : Int) :
    ofIndex (front ++ back) n = ofIndex front n ++ ofIndex back n := List.filter_append ..

/-- Leaving rules out by their index leaves out all of an index or none. -/
theorem ofIndex_filter (q : Int → Bool) (rules : List Rule) (n : Int) :
    ofIndex (rules.filter fun r => q r.index) n = if q n then ofIndex rules n else [] := by
  rw [ofIndex, List.filter_filter]
  split
  · next hn =>
    refine List.filter_congr fun r _ => ?_
    by_cases hr : r.index = n
    · simp [hr, hn]
    · simp [hr]
  · next hn =>
    refine List.filter_eq_nil_iff.2 fun r _ => ?_
    by_cases hr : r.index = n
    · simp [hr, hn]
    · simp [hr]

/-- Rules of one index are sorted, however they stand. -/
theorem pairwise_of_index {n : Int} {rules : List Rule} (h : ∀ r ∈ rules, r.index = n) :
    rules.Pairwise fun a b => a.index ≤ b.index := by
  rw [List.pairwise_iff_forall_sublist]
  intro a b hab
  have ha : a.index = n := h a (hab.subset (by simp))
  have hb : b.index = n := h b (hab.subset (by simp))
  omega

/-- The sort is stable: it keeps the rules of an index as they stand. -/
theorem ofIndex_inOrder (rules : List Rule) (n : Int) :
    ofIndex (inOrder rules) n = ofIndex rules n := by
  rw [ofIndex, ← inOrder_filter]
  exact inOrder_of_pairwise (pairwise_of_index fun r hr => by simpa using (List.mem_filter.1 hr).2)

/-! ## Lists that store the same rules -/

/-- The same rules, stored in another order perhaps; those of the same index keep theirs. -/
def Reordered (rules rules' : List Rule) : Prop := ∀ n, ofIndex rules n = ofIndex rules' n

/-- Sorted lists are the same as soon as they have the same rules of every index. -/
theorem Reordered.eq_of_pairwise {rules rules' : List Rule} (h : Reordered rules rules')
    (hsorted : rules.Pairwise fun a b => a.index ≤ b.index)
    (hsorted' : rules'.Pairwise fun a b => a.index ≤ b.index) : rules = rules' := by
  induction rules generalizing rules' with
  | nil =>
      cases rules' with
      | nil => rfl
      | cons b rest =>
          have hb := h b.index
          simp [ofIndex] at hb
  | cons a rest ih =>
      cases rules' with
      | nil =>
          have ha := h a.index
          simp [ofIndex] at ha
      | cons b rest' =>
          obtain ⟨hleast, hrest⟩ := List.pairwise_cons.1 hsorted
          obtain ⟨hleast', hrest'⟩ := List.pairwise_cons.1 hsorted'
          -- Each head occurs in the other list, so neither index is less than the other.
          have hle : b.index ≤ a.index := by
            have hmem : a ∈ ofIndex (b :: rest') a.index := by
              rw [← h a.index]
              simp [ofIndex]
            rcases List.mem_cons.1 (List.mem_filter.1 hmem).1 with hab | hmem
            · exact Int.le_of_eq (by rw [hab])
            · exact hleast' a hmem
          have hge : a.index ≤ b.index := by
            have hmem : b ∈ ofIndex (a :: rest) b.index := by
              rw [h b.index]
              simp [ofIndex]
            rcases List.mem_cons.1 (List.mem_filter.1 hmem).1 with hba | hmem
            · exact Int.le_of_eq (by rw [hba])
            · exact hleast b hmem
          have hindex : a.index = b.index := Int.le_antisymm hge hle
          have hhead : a = b := by
            have hsame := h a.index
            simp [ofIndex, hindex] at hsame
            exact hsame.1
          subst hhead
          have htail : Reordered rest rest' := by
            intro n
            have hsame := h n
            by_cases hn : a.index = n
            · simpa [ofIndex, hn] using hsame
            · simpa [ofIndex, hn] using hsame
          rw [ih htail hrest hrest']

/-- Two lists store the same rules exactly if these are tried in the same order. -/
theorem reordered_iff {rules rules' : List Rule} :
    Reordered rules rules' ↔ inOrder rules = inOrder rules' := by
  constructor
  · intro h
    have hsorted : Reordered (inOrder rules) (inOrder rules') := fun n => by
      rw [ofIndex_inOrder, ofIndex_inOrder, h n]
    exact hsorted.eq_of_pairwise (pairwise_inOrder rules) (pairwise_inOrder rules')
  · intro h n
    rw [← ofIndex_inOrder rules, ← ofIndex_inOrder rules', h]

theorem Reordered.perm {rules rules' : List Rule} (h : Reordered rules rules') :
    rules.Perm rules' := by
  have hsorted := inOrder_perm rules
  rw [reordered_iff.1 h] at hsorted
  exact hsorted.symm.trans (inOrder_perm rules')

/-- Neighbours of different index may stand either way round. -/
theorem Reordered.swap {a b : Rule} (h : a.index ≠ b.index) (front back : List Rule) :
    Reordered (front ++ a :: b :: back) (front ++ b :: a :: back) := by
  intro n
  rw [ofIndex_append, ofIndex_append]
  by_cases ha : a.index = n
  · have hb : b.index ≠ n := fun hb => h (ha.trans hb.symm)
    simp [ofIndex, ha, hb]
  · simp [ofIndex, List.filter_cons, ha]

/-! ## One more rule -/

/-- The rules that are tried before one of index `n` that stands between two lists. -/
def triedBefore (n : Int) (front back : List Rule) : List Rule :=
  inOrder (front.filter (·.index ≤ n) ++ back.filter (·.index < n))

/-- The rules that are tried after one of index `n` that stands between two lists. -/
def triedAfter (n : Int) (front back : List Rule) : List Rule :=
  inOrder (front.filter (n < ·.index) ++ back.filter (n ≤ ·.index))

theorem mem_triedBefore {n : Int} {front back : List Rule} {r : Rule} :
    r ∈ triedBefore n front back ↔
      (r ∈ front ∧ r.index ≤ n) ∨ (r ∈ back ∧ r.index < n) := by
  simp [triedBefore, (inOrder_perm _).mem_iff]

theorem mem_triedAfter {n : Int} {front back : List Rule} {r : Rule} :
    r ∈ triedAfter n front back ↔
      (r ∈ front ∧ n < r.index) ∨ (r ∈ back ∧ n ≤ r.index) := by
  simp [triedAfter, (inOrder_perm _).mem_iff]

/-- Rules of one index that stand together are tried together. -/
theorem inOrder_middle {n : Int} (front middle back : List Rule)
    (hmiddle : ∀ r ∈ middle, r.index = n) :
    inOrder (front ++ middle ++ back) =
      triedBefore n front back ++ middle ++ triedAfter n front back := by
  refine (Reordered.eq_of_pairwise ?_ ?_ (pairwise_inOrder _)).symm
  · -- The rules of one index stand on one side of the middle, or around it if the index is `n`.
    intro m
    have hof : ofIndex middle m = if n = m then middle else [] := by
      split
      · next hnm =>
        exact List.filter_eq_self.2 fun r hr => by simp [hmiddle r hr, hnm]
      · next hnm =>
        exact List.filter_eq_nil_iff.2 fun r hr => by simp [hmiddle r hr, hnm]
    rw [ofIndex_inOrder]
    simp only [ofIndex_append, triedBefore, triedAfter, ofIndex_inOrder,
      ofIndex_filter (fun i => decide (i ≤ n)), ofIndex_filter (fun i => decide (i < n)),
      ofIndex_filter (fun i => decide (n < i)), ofIndex_filter (fun i => decide (n ≤ i)), hof]
    rcases Int.lt_trichotomy m n with hlt | heq | hgt
    · simp [hlt, Int.le_of_lt hlt, Int.ne_of_gt hlt, Int.not_lt.2 (Int.le_of_lt hlt),
        Int.not_le.2 hlt]
    · simp [heq]
    · simp [hgt, Int.le_of_lt hgt, Int.ne_of_lt hgt, Int.not_lt.2 (Int.le_of_lt hgt),
        Int.not_le.2 hgt]
  · refine List.pairwise_append.2 ⟨List.pairwise_append.2 ⟨pairwise_inOrder _, ?_, ?_⟩,
      pairwise_inOrder _, ?_⟩
    · exact pairwise_of_index hmiddle
    · intro a ha b hb
      rw [hmiddle b hb]
      rcases mem_triedBefore.1 ha with ⟨_, hle⟩ | ⟨_, hlt⟩
      · exact hle
      · exact Int.le_of_lt hlt
    · intro a ha b hb
      have hb' : n ≤ b.index := by
        rcases mem_triedAfter.1 hb with ⟨_, hlt⟩ | ⟨_, hle⟩
        · exact Int.le_of_lt hlt
        · exact hle
      have ha' : a.index ≤ n := by
        rcases List.mem_append.1 ha with ha | ha
        · rcases mem_triedBefore.1 ha with ⟨_, hle⟩ | ⟨_, hlt⟩
          · exact hle
          · exact Int.le_of_lt hlt
        · exact Int.le_of_eq (hmiddle a ha)
      exact Int.le_trans ha' hb'

/-- Where one more rule is tried. -/
theorem inOrder_insert (front back : List Rule) (r : Rule) :
    inOrder (front ++ r :: back) =
      triedBefore r.index front back ++ r :: triedAfter r.index front back := by
  have hmiddle := inOrder_middle (n := r.index) front [r] back (by simp)
  simpa using hmiddle

/-- The first rule comes before the second, by index or, at the same index, by its place in the
list. -/
def ComesBefore (rules : List Rule) (a b : Rule) : Prop :=
  ∃ i j : Nat, rules[i]? = some a ∧ rules[j]? = some b ∧
    (a.index < b.index ∨ (a.index = b.index ∧ i < j))

/-- What comes before is tried before. -/
theorem ComesBefore.sublist_inOrder {rules : List Rule} {a b : Rule} (h : ComesBefore rules a b) :
    [a, b].Sublist (inOrder rules) := by
  obtain ⟨i, j, hi, hj, hlater⟩ := h
  obtain ⟨hlt, ha⟩ := List.getElem?_eq_some_iff.1 hi
  have hsplit : rules = rules.take i ++ a :: rules.drop (i + 1) := by
    rw [← ha, ← List.drop_eq_getElem_cons hlt, List.take_append_drop]
  have hafter : b ∈ triedAfter a.index (rules.take i) (rules.drop (i + 1)) := by
    rw [mem_triedAfter]
    rcases Nat.lt_trichotomy i j with hij | hij | hij
    · have hmem : b ∈ rules.drop (i + 1) := by
        apply List.mem_of_getElem? (i := j - (i + 1))
        rw [List.getElem?_drop, show i + 1 + (j - (i + 1)) = j by omega]
        exact hj
      exact Or.inr ⟨hmem, by omega⟩
    · subst hij
      have hab : a = b := Option.some.inj (hi.symm.trans hj)
      subst hab
      omega
    · have hmem : b ∈ rules.take i := by
        apply List.mem_of_getElem? (i := j)
        rw [List.getElem?_take_of_lt hij]
        exact hj
      exact Or.inl ⟨hmem, by omega⟩
  rw [hsplit, inOrder_insert]
  exact (List.Sublist.cons_cons a (List.singleton_sublist.2 hafter)).trans
    (List.sublist_append_right _ _)

/-- Without the rule, the others are tried in the same order. -/
theorem inOrder_append (n : Int) (front back : List Rule) :
    inOrder (front ++ back) = triedBefore n front back ++ triedAfter n front back := by
  have hmiddle := inOrder_middle (n := n) front [] back (by simp)
  simpa using hmiddle

/-! ## The deciding rule -/

/-- The outcome depends on the order in which rules are tried, and on nothing else. -/
theorem Reordered.evaluate_eq {rules rules' : List Rule} (h : Reordered rules rules')
    (applies : Rule → Bool) (newOnly : Bool) :
    evaluate rules applies newOnly = evaluate rules' applies newOnly := by
  have hcandidates : inOrder (candidates rules applies newOnly) =
      inOrder (candidates rules' applies newOnly) := by
    rw [candidates_eq_filter, candidates_eq_filter, inOrder_filter, inOrder_filter,
      reordered_iff.1 h]
  rw [evaluate, evaluate, hcandidates]

variable (front back : List Rule) {applies : Rule → Bool} {newOnly : Bool} {r : Rule}

/-- A rule that cannot decide changes no outcome. -/
theorem evaluate_insert (h : isCandidate applies newOnly r = false) :
    evaluate (front ++ r :: back) applies newOnly = evaluate (front ++ back) applies newOnly := by
  have hcandidates : candidates (front ++ r :: back) applies newOnly =
      candidates (front ++ back) applies newOnly := by
    simp [candidates_eq_filter, h]
  rw [evaluate, evaluate, hcandidates]

/-- With one more rule, the rule that decides is the one that did, or else the new one, which then
can decide. -/
theorem effective_insert (applies : Rule → Bool) (newOnly : Bool) (r : Rule) :
    (evaluate (front ++ r :: back) applies newOnly).effective =
        (evaluate (front ++ back) applies newOnly).effective ∨
      ((evaluate (front ++ r :: back) applies newOnly).effective = some r ∧
        isCandidate applies newOnly r = true) := by
  rw [effective_eq_find, effective_eq_find, inOrder_insert, inOrder_append r.index,
    List.find?_append, List.find?_append]
  cases List.find? (isCandidate applies newOnly) (triedBefore r.index front back) with
  | some s => exact Or.inl rfl
  | none =>
      by_cases hr : isCandidate applies newOnly r = true
      · exact Or.inr ⟨by simp [hr], hr⟩
      · exact Or.inl (by simp [hr])

end SiteAudit.Rule

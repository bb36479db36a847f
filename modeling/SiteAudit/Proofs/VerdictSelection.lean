import SiteAudit.Display.Inventory
import SiteAudit.Proofs.RuleOrder

/-!
# Verdicts as selections

An outcome names up to two rules: one that decides, and one of the opposite
action that it hides.  The evaluator finds them by sorting what can decide and
walking on from the head.  Here each is described by itself, as the first rule
by index and place among those that satisfy a condition.

The hidden rule is looked for behind the deciding rule only.  Nothing is missed
that way: all contenders stand behind the deciding rule, and the deciding rule
itself has the other action.

## Main results

* `selects_find_inOrder` — a search through rules in order makes the selection.
* `isCandidate_iff_contends` — which rules take part.
* `evaluate_of_effective` — the whole outcome once the deciding rule is known.
* `isSelected_evaluate`, `IsSelected.unique` — the selections hold of the
  outcome, and of no other.
* `evaluate_selects` — all of it, with the list in which the deciding rule can
  be read off.
-/

namespace SiteAudit.Rule

/-! ## Selections -/

/-- The selection made among the rules that satisfy a condition: the first by index and place, or
nothing if no rule does. -/
def Selects (rules : List Rule) (p : Rule → Prop) : Option Rule → Prop
  | some r => IsFirst rules p r
  | none => ∀ s ∈ rules, ¬p s

/-- A condition selects at most one answer. -/
theorem Selects.unique {rules : List Rule} {p : Rule → Prop} {o o' : Option Rule}
    (h : Selects rules p o) (h' : Selects rules p o') : o = o' := by
  cases o with
  | none =>
      cases o' with
      | none => rfl
      | some r => exact absurd h'.prop (h r h'.mem)
  | some r =>
      cases o' with
      | none => exact absurd h.prop (h' r h.mem)
      | some r' => rw [IsFirst.unique h h']

/-- A search through the rules in order makes the selection. -/
theorem selects_find_inOrder (rules : List Rule) (p : Rule → Prop) [DecidablePred p] :
    Selects rules p ((inOrder rules).find? fun s => decide (p s)) := by
  cases hfind : (inOrder rules).find? fun s => decide (p s) with
  | none =>
      intro s hs
      simpa using List.find?_eq_none.1 hfind s ((inOrder_perm rules).mem_iff.2 hs)
  | some r =>
      have hfirst := find_inOrder_iff.1 hfind
      exact (IsFirst.congr fun s _ => decide_eq_true_iff.symm).2 hfirst

/-! ## Contenders -/

/-- Whether a rule takes part in the decision: it is in force, allows or blocks, and matches.
Where only fresh connections count, it does not allow answers only. -/
def Contends (applies : Rule → Bool) (newOnly : Bool) (r : Rule) : Prop :=
  r.enabled = true ∧ (r.action = .allow ∨ r.action = .block) ∧ applies r = true ∧
    ¬(newOnly = true ∧ r.action = .allow ∧ r.stateType = .respondOnly)

instance (applies : Rule → Bool) (newOnly : Bool) (r : Rule) :
    Decidable (Contends applies newOnly r) :=
  inferInstanceAs (Decidable (_ ∧ _))

variable {rules : List Rule} {applies : Rule → Bool} {newOnly : Bool} {r : Rule}

theorem isCandidate_iff_contends :
    isCandidate applies newOnly r = true ↔ Contends applies newOnly r := by
  have haction : r.action ≠ .unknown ↔ r.action = .allow ∨ r.action = .block := by
    cases r.action <;> decide
  have hanswers : (newOnly = true → r.allowsAnswersOnly = false) ↔
      ¬(newOnly = true ∧ r.action = .allow ∧ r.stateType = .respondOnly) := by
    rw [← allowsAnswersOnly_iff, not_and, Bool.not_eq_true]
  rw [isCandidate_iff, haction, hanswers, Contends]

/-- The deciding rule is the first contender in order. -/
theorem effective_eq_find_contends (rules : List Rule) (applies : Rule → Bool) (newOnly : Bool) :
    (evaluate rules applies newOnly).effective =
      (inOrder rules).find? fun s => decide (Contends applies newOnly s) := by
  rw [effective_eq_find]
  congr 1
  funext s
  rw [Bool.eq_iff_iff, isCandidate_iff_contends, decide_eq_true_iff]

/-- The first contender of an action. -/
def firstOf? (rules : List Rule) (applies : Rule → Bool) (newOnly : Bool) (action : Action) :
    Option Rule :=
  (inOrder rules).find? fun s => decide (Contends applies newOnly s ∧ s.action = action)

/-- The first contender of an action is the first candidate in order that has it. -/
theorem find_inOrder_candidates (action : Action) :
    (inOrder (candidates rules applies newOnly)).find? (·.action == action) =
      firstOf? rules applies newOnly action := by
  rw [candidates_eq_filter, inOrder_filter, List.find?_filter, firstOf?]
  simp only [isCandidate_iff_contends, beq_iff_eq]

/-! ## Outcomes -/

/-- Without a deciding rule, nothing is allowed, blocked or hidden. -/
theorem evaluate_of_undecided (h : (evaluate rules applies newOnly).effective = none) :
    evaluate rules applies newOnly = Verdict.none := by
  rw [effective_eq_head, List.head?_eq_none_iff] at h
  rw [evaluate, h]

/-- The outcome is known from the deciding rule and the first contender of each action. -/
theorem evaluate_of_effective (h : (evaluate rules applies newOnly).effective = some r) :
    evaluate rules applies newOnly =
      { effective := some r
        allowed := r.isAllow
        blocked := r.blocksNew
        eclipsedBlock := if r.isAllow then firstOf? rules applies newOnly .block else none
        eclipsedAllow := if r.isBlock then firstOf? rules applies newOnly .allow else none } := by
  rw [effective_eq_head] at h
  obtain ⟨rest, horder⟩ : ∃ rest, inOrder (candidates rules applies newOnly) = r :: rest :=
    List.head?_eq_some_iff.1 h
  -- The head has another action, so a search behind it is a search through all candidates.
  have hrest : ∀ action, r.action ≠ action →
      rest.find? (·.action == action) = firstOf? rules applies newOnly action := by
    intro action hne
    rw [← find_inOrder_candidates, horder, List.find?_cons_of_neg (by simpa using hne)]
  rw [evaluate, horder]
  cases haction : r.action with
  | allow => simp [isAllow, isBlock, haction, Action.opposite?, hrest .block (by simp [haction])]
  | block => simp [isAllow, isBlock, haction, Action.opposite?, hrest .allow (by simp [haction])]
  | unknown => simp [isAllow, isBlock, haction]

/-- What an outcome names, with what follows from it: a selection among the contenders decides,
and one among those of the opposite action is hidden. -/
structure IsSelected (rules : List Rule) (contends : Rule → Prop) (v : Verdict) : Prop where
  effective : Selects rules contends v.effective
  eclipsed_of_allow : ∀ r, v.effective = some r → r.action = .allow →
    Selects rules (fun s => contends s ∧ s.action = .block) v.eclipsedBlock ∧
      v.eclipsedAllow = none
  eclipsed_of_block : ∀ r, v.effective = some r → r.action = .block →
    Selects rules (fun s => contends s ∧ s.action = .allow) v.eclipsedAllow ∧
      v.eclipsedBlock = none
  undecided : v.effective = none → v = Verdict.none
  allowed : v.allowed = true ↔ ∃ r, v.effective = some r ∧ r.action = .allow
  blocked : v.blocked = true ↔ ∃ r, v.effective = some r ∧ r.action = .block ∧ r.matchesNew = true

theorem isSelected_evaluate (rules : List Rule) (applies : Rule → Bool) (newOnly : Bool) :
    IsSelected rules (Contends applies newOnly) (evaluate rules applies newOnly) where
  effective := by
    rw [effective_eq_find_contends]
    exact selects_find_inOrder rules _
  eclipsed_of_allow := by
    intro r heffective haction
    rw [evaluate_of_effective heffective]
    simp only [isAllow, isBlock, haction]
    exact ⟨selects_find_inOrder rules _, rfl⟩
  eclipsed_of_block := by
    intro r heffective haction
    rw [evaluate_of_effective heffective]
    simp only [isAllow, isBlock, haction]
    exact ⟨selects_find_inOrder rules _, rfl⟩
  undecided := evaluate_of_undecided
  allowed := by
    cases heffective : (evaluate rules applies newOnly).effective with
    | none => simp [evaluate_of_undecided heffective, Verdict.none]
    | some r => simp [evaluate_of_effective heffective, isAllow]
  blocked := by
    cases heffective : (evaluate rules applies newOnly).effective with
    | none => simp [evaluate_of_undecided heffective, Verdict.none]
    | some r => simp [evaluate_of_effective heffective, blocksNew_eq_true_iff]

namespace IsSelected

/-- One rule decides, so nothing is both allowed and blocked. -/
theorem not_allowed_and_blocked {contends : Rule → Prop} {v : Verdict}
    (h : IsSelected rules contends v) : ¬(v.allowed = true ∧ v.blocked = true) := by
  rintro ⟨hallowed, hblocked⟩
  obtain ⟨r, hr, hallow⟩ := h.allowed.1 hallowed
  obtain ⟨s, hs, hblock, _⟩ := h.blocked.1 hblocked
  have hrs : r = s := Option.some.inj (hr.symm.trans hs)
  subst hrs
  rw [hallow] at hblock
  exact Action.noConfusion hblock

/-- The selections leave nothing of an outcome open, since a contender allows or blocks. -/
theorem unique {v v' : Verdict} (h : IsSelected rules (Contends applies newOnly) v)
    (h' : IsSelected rules (Contends applies newOnly) v') : v = v' := by
  have heffective : v.effective = v'.effective := h.effective.unique h'.effective
  cases hdecides : v.effective with
  | none =>
      rw [h.undecided hdecides, h'.undecided (heffective.symm.trans hdecides)]
  | some r =>
      have hdecides' : v'.effective = some r := heffective.symm.trans hdecides
      have hselects := h.effective
      rw [hdecides] at hselects
      have hallowed : v.allowed = v'.allowed := by
        rw [Bool.eq_iff_iff, h.allowed, h'.allowed, heffective]
      have hblocked : v.blocked = v'.blocked := by
        rw [Bool.eq_iff_iff, h.blocked, h'.blocked, heffective]
      have heclipsed : v.eclipsedBlock = v'.eclipsedBlock ∧ v.eclipsedAllow = v'.eclipsedAllow := by
        rcases hselects.prop.2.1 with hallow | hblock
        · obtain ⟨hfirst, hnone⟩ := h.eclipsed_of_allow r hdecides hallow
          obtain ⟨hfirst', hnone'⟩ := h'.eclipsed_of_allow r hdecides' hallow
          exact ⟨hfirst.unique hfirst', hnone.trans hnone'.symm⟩
        · obtain ⟨hfirst, hnone⟩ := h.eclipsed_of_block r hdecides hblock
          obtain ⟨hfirst', hnone'⟩ := h'.eclipsed_of_block r hdecides' hblock
          exact ⟨hnone.trans hnone'.symm, hfirst.unique hfirst'⟩
      cases v
      cases v'
      rw [Verdict.mk.injEq]
      exact ⟨heffective, hallowed, hblocked, heclipsed⟩

end IsSelected

/-! ## The selections -/

/-- **Two selections.**  For all rules, whatever they are asked about, the outcome is the one in
which the deciding rule is the first contender by index and place, and the hidden rule the first
contender of the opposite action; both are missing exactly if there are no such contenders.
Nothing is allowed and blocked at once.  The same rules stored in another order give the same
outcome as long as those of one index keep theirs, and the deciding rule is the first contender
in the list in which rules are shown. -/
theorem evaluate_selects (rules : List Rule) (applies : Rule → Bool) (newOnly : Bool) :
    (∀ v, evaluate rules applies newOnly = v ↔ IsSelected rules (Contends applies newOnly) v) ∧
      ¬((evaluate rules applies newOnly).allowed = true ∧
        (evaluate rules applies newOnly).blocked = true) ∧
      (∀ rules', Reordered rules rules' →
        evaluate rules' applies newOnly = evaluate rules applies newOnly) ∧
      (∃ header, (viewOf rules).table = Layout.Table.text ⟨header, (inOrder rules).map row⟩) ∧
      (viewOf rules).value = .list Rule.toJson (inOrder rules) ∧
      (viewOf rules).plain = Text.joinWith "\n" ((inOrder rules).map Rule.id) ∧
      (evaluate rules applies newOnly).effective =
        (inOrder rules).find? fun s => decide (Contends applies newOnly s) := by
  have hselected := isSelected_evaluate rules applies newOnly
  refine ⟨fun v => ⟨?_, hselected.unique⟩, hselected.not_allowed_and_blocked, ?_,
    ⟨_, rfl⟩, rfl, rfl, effective_eq_find_contends rules applies newOnly⟩
  · rintro rfl
    exact hselected
  · intro rules' hreordered
    exact (hreordered.evaluate_eq applies newOnly).symm

end SiteAudit.Rule

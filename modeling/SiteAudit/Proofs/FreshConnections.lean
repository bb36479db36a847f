import SiteAudit.Audit.Isolation
import SiteAudit.Proofs.FirstMatch

/-!
# Fresh connections

An evaluation for fresh connections leaves out allow rules that only let
answers pass.  It leaves out nothing else: a rule with a set of states of its
own stays, whether or not new connections are among them, and so does a block
rule of every kind.

So the rule that decides is the first of all rules but those for answers.  It
is the first rule that applies to fresh connections only if it applies to them
itself; a rule with other states hides that one.  What can be relied on
everywhere is that rules for answers have no part in it: without them, traces
of fresh connections and the findings about isolation are the same.

## Main results

* `Rule.fresh_effective_eq_some_iff`, `Rule.fresh_effective_eq_none_iff` —
  which rule decides.
* `Rule.effective_first_fresh_iff` — when it is the first rule that applies
  to fresh connections.
* `Rule.evaluate_filter_answers`, `Site.trace_withoutAnswers`,
  `Audit.Isolation.findings_withoutAnswers` — rules for answers may be left
  out.
* `fresh_connections_decided` — all of it together.
-/

namespace SiteAudit

namespace Rule

/-- Whether a rule can decide on fresh connections: it is in force, its action is known, it
matches, and it does more than let answers pass. -/
def MayDecideFresh (applies : Rule → Bool) (r : Rule) : Prop :=
  r.enabled = true ∧ r.action ≠ .unknown ∧ applies r = true ∧
    ¬(r.action = .allow ∧ r.stateType = .respondOnly)

instance (applies : Rule → Bool) (r : Rule) : Decidable (MayDecideFresh applies r) :=
  inferInstanceAs (Decidable (_ ∧ _))

/-- Whether a rule applies to fresh connections: it is in force, its action is known, it matches,
and new connections are among its states. -/
def AppliesFresh (applies : Rule → Bool) (r : Rule) : Prop :=
  r.enabled = true ∧ r.action ≠ .unknown ∧ applies r = true ∧ r.matchesNew = true

instance (applies : Rule → Bool) (r : Rule) : Decidable (AppliesFresh applies r) :=
  inferInstanceAs (Decidable (_ ∧ _))

variable {rules : List Rule} {applies : Rule → Bool} {r : Rule}

theorem isCandidate_fresh_iff : isCandidate applies true r = true ↔ MayDecideFresh applies r := by
  rw [isCandidate_iff, MayDecideFresh, ← allowsAnswersOnly_iff, Bool.not_eq_true]
  simp

theorem AppliesFresh.mayDecideFresh (h : AppliesFresh applies r) : MayDecideFresh applies r := by
  obtain ⟨henabled, hknown, happlies, hnew⟩ := h
  rw [← isCandidate_fresh_iff, isCandidate_iff]
  exact ⟨henabled, hknown, happlies, fun _ => allowsAnswersOnly_eq_false_of_matchesNew hnew⟩

/-! ## The deciding rule -/

/-- The rule that decides is the first one that can. -/
theorem fresh_effective_eq_some_iff :
    (evaluate rules applies true).effective = some r ↔
      IsFirst rules (MayDecideFresh applies) r := by
  rw [effective_eq_some_iff]
  exact IsFirst.congr fun s _ => isCandidate_fresh_iff

/-- No rule decides if none can. -/
theorem fresh_effective_eq_none_iff :
    (evaluate rules applies true).effective = none ↔
      ∀ s ∈ rules, ¬MayDecideFresh applies s := by
  rw [effective_eq_none_iff]
  simp only [isCandidate_fresh_iff]

/-- The rule that decides is the first one that applies to fresh connections if it applies to
them itself, or if none decides; otherwise it is in front of that one. -/
theorem effective_first_fresh_iff :
    (∀ r, (evaluate rules applies true).effective = some r ↔
        IsFirst rules (AppliesFresh applies) r) ↔
      (evaluate rules applies true).effective.all matchesNew = true := by
  cases heffective : (evaluate rules applies true).effective with
  | none =>
      have hnone := fresh_effective_eq_none_iff.1 heffective
      refine iff_of_true (fun r => iff_of_false (by simp) fun h => ?_) rfl
      exact hnone r h.mem h.prop.mayDecideFresh
  | some d =>
      have hfirst := fresh_effective_eq_some_iff.1 heffective
      constructor
      · intro h
        have hfresh : AppliesFresh applies d := ((h d).1 rfl).prop
        exact hfresh.2.2.2
      · intro hnew r
        obtain ⟨henabled, hknown, happlies, _⟩ := hfirst.prop
        have hfresh : IsFirst rules (AppliesFresh applies) d :=
          hfirst.mono ⟨henabled, hknown, happlies, hnew⟩ fun s _ hs => hs.mayDecideFresh
        constructor
        · intro h
          cases h
          exact hfresh
        · intro h
          rw [hfresh.unique h]

/-! ## Rules for answers -/

/-- For fresh connections, rules that only let answers pass may be left out. -/
theorem evaluate_filter_answers (rules : List Rule) (applies : Rule → Bool) :
    evaluate (rules.filter (!·.allowsAnswersOnly)) applies true = evaluate rules applies true := by
  have hsame : candidates (rules.filter (!·.allowsAnswersOnly)) applies true =
      candidates rules applies true := by
    rw [candidates_eq_filter, candidates_eq_filter, List.filter_filter]
    refine List.filter_congr fun s _ => ?_
    cases hcandidate : isCandidate applies true s with
    | false => rfl
    | true =>
        obtain ⟨_, _, _, hmore⟩ := isCandidate_iff.1 hcandidate
        rw [hmore rfl]
        rfl
  rw [evaluate, evaluate, hsame]

end Rule

/-- The site without the rules that only let answers pass. -/
def Site.withoutAnswers (site : Site) : Site :=
  { site with rules := site.rules.filter (!·.allowsAnswersOnly) }

/-- Rules for answers have no part in traces of fresh connections. -/
theorem Site.trace_withoutAnswers (site : Site) (source destination : Network)
    (filter : TrafficFilter) :
    site.withoutAnswers.trace source destination filter true =
      site.trace source destination filter true :=
  Rule.evaluate_filter_answers site.rules (site.rulesTraffic source destination filter)

namespace Audit.Isolation

/-- Rules for answers do not block. -/
theorem allowsAnswersOnly_eq_false_of_blocks {site : Site} {a b : Network} {r : Rule}
    (h : (blocks site a b r || blocks site b a r) = true) : r.allowsAnswersOnly = false := by
  have hnew : r.blocksNew = true := by
    simp only [blocks, Bool.or_eq_true, Bool.and_eq_true] at h
    rcases h with ⟨⟨⟨_, hblocks⟩, _⟩, _⟩ | ⟨⟨⟨_, hblocks⟩, _⟩, _⟩
    · exact hblocks
    · exact hblocks
  exact Rule.allowsAnswersOnly_eq_false_of_matchesNew (Rule.blocksNew_eq_true_iff.1 hnew).2

theorem isBlocked_withoutAnswers (site : Site) (a b : Network) :
    isBlocked site.withoutAnswers a b = isBlocked site a b := by
  rw [isBlocked, isBlocked, Site.withoutAnswers, List.any_filter]
  refine List.any_congr rfl fun r => ?_
  change (!r.allowsAnswersOnly && (blocks site a b r || blocks site b a r)) = _
  cases hblocks : blocks site a b r || blocks site b a r with
  | false => rw [Bool.and_false]
  | true => rw [allowsAnswersOnly_eq_false_of_blocks hblocks, Bool.not_false, Bool.true_and]

theorem bypass_withoutAnswers (site : Site) (source destination : Network) :
    bypass? site.withoutAnswers source destination = bypass? site source destination := by
  rw [bypass?, Site.trace_withoutAnswers]
  rfl

/-- Rules for answers have no part in the findings about isolation. -/
theorem findings_withoutAnswers (site : Site) :
    findings site.withoutAnswers = findings site := by
  have hpair : ∀ a b, finding? site.withoutAnswers a b = finding? site a b := by
    intro a b
    simp only [finding?, bypass_withoutAnswers, isBlocked_withoutAnswers]
  simp only [findings, hpair]
  rfl

end Audit.Isolation

/-! ## Summary -/

/-- **What decides on fresh connections.**  For all rules and whatever they are asked about, the
rule that decides is the first by index and place of those that do more than let answers pass,
and there is none exactly if there are no such rules.  It is the first of the rules that apply to
fresh connections exactly if it is one of them, should there be a rule that decides.  At every
site, rules that only let answers pass neither decide nor hide the rule that decides: without
them all traces of fresh connections and all findings about isolation stay as they are. -/
theorem fresh_connections_decided (rules : List Rule) (applies : Rule → Bool) (site : Site) :
    (∀ r, (Rule.evaluate rules applies true).effective = some r ↔
        Rule.IsFirst rules (Rule.MayDecideFresh applies) r) ∧
      ((Rule.evaluate rules applies true).effective = none ↔
        ∀ s ∈ rules, ¬Rule.MayDecideFresh applies s) ∧
      ((∀ r, (Rule.evaluate rules applies true).effective = some r ↔
          Rule.IsFirst rules (Rule.AppliesFresh applies) r) ↔
        (Rule.evaluate rules applies true).effective.all Rule.matchesNew = true) ∧
      (∀ source destination filter,
        site.withoutAnswers.trace source destination filter true =
          site.trace source destination filter true) ∧
      Audit.Isolation.findings site.withoutAnswers = Audit.Isolation.findings site :=
  ⟨fun _ => Rule.fresh_effective_eq_some_iff, Rule.fresh_effective_eq_none_iff,
    Rule.effective_first_fresh_iff, site.trace_withoutAnswers,
    Audit.Isolation.findings_withoutAnswers site⟩

/-- Lets packets of established connections pass. -/
def allowEstablished : Rule :=
  { id := "established", name := "Established", action := .allow, enabled := true
    predefined := false, index := 1, protocol := ⟨.all, false⟩, stateType := .custom
    states := .ofList ["ESTABLISHED"], source := .everything, destination := .everything
    ruleset := none, hitCount := none }

/-- Blocks all traffic. -/
def blockEverything : Rule :=
  { allowEstablished with
      id := "everything", name := "Everything", action := .block, index := 2, stateType := .all
      states := .empty }

/-- A rule whose own set of states is without new connections stays in the evaluation, and hides
the first rule that applies to fresh connections. -/
theorem established_decides_fresh :
    let rules := [allowEstablished, blockEverything]
    (Rule.evaluate rules (fun _ => true) true).effective = some allowEstablished ∧
      allowEstablished.matchesNew = false ∧
      Rule.IsFirst rules (Rule.AppliesFresh fun _ => true) blockEverything ∧
      ¬∀ r, (Rule.evaluate rules (fun _ => true) true).effective = some r ↔
        Rule.IsFirst rules (Rule.AppliesFresh fun _ => true) r := by
  intro rules
  have horder : Rule.inOrder rules = rules := Rule.inOrder_of_pairwise (by decide)
  have heffective : (Rule.evaluate rules (fun _ => true) true).effective =
      some allowEstablished := by
    rw [Rule.effective_eq_find, horder]
    decide
  have hnot : allowEstablished.matchesNew = false := by decide
  refine ⟨heffective, hnot, ?_, ?_⟩
  · refine ⟨1, rfl, by decide, fun j s hj hs => ?_⟩
    match j, hj with
    | 0, hj =>
        cases hj
        rw [hs.2.2.2] at hnot
        exact Bool.noConfusion hnot
    | 1, hj =>
        cases hj
        exact Or.inr ⟨rfl, Nat.le_refl 1⟩
  · intro hclaim
    have hfresh : Rule.AppliesFresh (fun _ => true) allowEstablished :=
      ((hclaim allowEstablished).1 heffective).prop
    rw [hfresh.2.2.2] at hnot
    exact Bool.noConfusion hnot

end SiteAudit

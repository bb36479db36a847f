import SiteAudit.Proofs.AddedRules
import SiteAudit.Proofs.DeadRules

/-!
# Rules in no other's way

Take a rule that contains no other rule and overlaps none.  It makes no rule dead
and takes part in no exception, so it stands by while the others are compared.
Only one thing can be said about it: that it is dead itself.

## Main results

* `findings_insert_iff` — the shadowing check is the same with such a rule and
  without it, unless an earlier rule makes it dead.
* `findings_insertRule_iff` — the same for a rule that is put in at any place.
-/

namespace SiteAudit.Audit.Shadowing

variable {site : Site} {place : Nat} {r : Rule}

/-- A rule that contains no other rule and overlaps none. -/
structure Bystander (site : Site) (r : Rule) : Prop where
  eclipsesNone : ∀ s, eclipses site r s = false
  exemptsNone : ∀ s, exempts site r s = false
  exemptedByNone : ∀ s, exempts site s r = false

/-- The dead ones among some rules that follow others. -/
def deadAfter (site : Site) (earlier : List Rule) : List Rule → List (Rule × Rule)
  | [] => []
  | r :: later =>
    ((eclipsedBy? site earlier r).map (r, ·)).toList ++ deadAfter site (earlier ++ [r]) later

/-- The exceptions that some rules make to those after them. -/
def exceptionsAmong (site : Site) (deadIds : List String) : List Rule → List (Rule × Rule)
  | [] => []
  | r :: later =>
    (if isExceptionCandidate site deadIds r then (later.find? (exempts site r)).map (r, ·)
      else none).toList ++ exceptionsAmong site deadIds later

theorem deadRules_eq (site : Site) : deadRules site = deadAfter site [] (userOrder site) := by
  suffices h : ∀ earlier rules, ((splits earlier rules).filterMap fun s =>
      (eclipsedBy? site s.1 s.2.1).map (s.2.1, ·)) = deadAfter site earlier rules from h [] _
  intro earlier rules
  induction rules generalizing earlier with
  | nil => rfl
  | cons r later ih =>
      rw [splits, List.filterMap_cons, deadAfter, ← ih]
      dsimp only
      cases eclipsedBy? site earlier r <;> rfl

theorem exceptions_eq (site : Site) :
    exceptions site = exceptionsAmong site (deadAllowIds site) (userOrder site) := by
  suffices h : ∀ deadIds earlier rules, ((splits earlier rules).filterMap fun s =>
      if isExceptionCandidate site deadIds s.2.1 then
        (s.2.2.find? (exempts site s.2.1)).map (s.2.1, ·)
      else none) = exceptionsAmong site deadIds rules from h _ [] _
  intro deadIds earlier rules
  induction rules generalizing earlier with
  | nil => rfl
  | cons r later ih =>
      rw [splits, List.filterMap_cons, exceptionsAmong, ← ih (earlier ++ [r])]
      dsimp only
      cases (if isExceptionCandidate site deadIds r then
        (later.find? (exempts site r)).map (r, ·) else none) <;> rfl

/-- Which of some rules are dead does not depend on the rules of the site. -/
theorem deadAfter_withRules (site : Site) (rules earlier list : List Rule) :
    deadAfter (site.withRules rules) earlier list = deadAfter site earlier list := by
  induction list generalizing earlier with
  | nil => rfl
  | cons r later ih =>
      rw [deadAfter, ih, deadAfter]
      rfl

theorem exceptionsAmong_withRules (site : Site) (rules : List Rule) (deadIds : List String)
    (list : List Rule) :
    exceptionsAmong (site.withRules rules) deadIds list = exceptionsAmong site deadIds list := by
  induction list with
  | nil => rfl
  | cons r later ih =>
      rw [exceptionsAmong, ih, exceptionsAmong]
      rfl

theorem deadAfter_append (earlier xs ys : List Rule) :
    deadAfter site earlier (xs ++ ys) =
      deadAfter site earlier xs ++ deadAfter site (earlier ++ xs) ys := by
  induction xs generalizing earlier with
  | nil => simp [deadAfter]
  | cons x xs ih => simp [deadAfter, ih]

/-- Rules are dead in the same way after two lists that make the same rules dead. -/
theorem deadAfter_congr {earlier earlier' : List Rule}
    (h : ∀ s, eclipsedBy? site earlier s = eclipsedBy? site earlier' s) (rules : List Rule) :
    deadAfter site earlier rules = deadAfter site earlier' rules := by
  induction rules generalizing earlier earlier' with
  | nil => rfl
  | cons r later ih =>
      have hnext : ∀ s, eclipsedBy? site (earlier ++ [r]) s =
          eclipsedBy? site (earlier' ++ [r]) s := by
        intro s
        have hs := h s
        simp only [eclipsedBy?] at hs ⊢
        rw [List.find?_append, List.find?_append, hs]
      rw [deadAfter, deadAfter, h r, ih hnext]

theorem exceptionsAmong_insert (h : Bystander site r) (deadIds : List String)
    (xs ys : List Rule) :
    exceptionsAmong site deadIds (xs ++ r :: ys) = exceptionsAmong site deadIds (xs ++ ys) := by
  induction xs with
  | nil =>
      have hnone : ys.find? (exempts site r) = none := by
        simp [List.find?_eq_none, h.exemptsNone]
      simp [exceptionsAmong, hnone]
  | cons x xs ih =>
      have hfind : (xs ++ r :: ys).find? (exempts site x) = (xs ++ ys).find? (exempts site x) := by
        rw [List.find?_append, List.find?_append,
          List.find?_cons_of_neg (by simp [h.exemptedByNone x])]
      simp [exceptionsAmong, hfind, ih]

/-- The dead rules with one more rule that contains no other: that one, if it is dead. -/
theorem deadAfter_insert (h : Bystander site r) (xs ys : List Rule) :
    deadAfter site [] (xs ++ r :: ys) =
      deadAfter site [] xs ++
        (((eclipsedBy? site xs r).map (r, ·)).toList ++ deadAfter site xs ys) := by
  have hlater : deadAfter site (xs ++ [r]) ys = deadAfter site xs ys := by
    refine deadAfter_congr (fun s => ?_) ys
    simp [eclipsedBy?, List.find?_append, h.eclipsesNone s]
  rw [deadAfter_append, List.nil_append, deadAfter, hlater]

/-- The findings about dead rules can be told from the others. -/
theorem filter_findings (site : Site) :
    (findings site).filter (·.kind != .allowExceptionPattern) =
      (deadRules site).map fun (r, earlier) => dead r earlier := by
  rw [findings, List.filter_append, List.filter_eq_self.2, List.filter_eq_nil_iff.2,
    List.append_nil]
  · intro f hf
    obtain ⟨⟨allow, block⟩, _, rfl⟩ := List.mem_map.1 hf
    simp [kind_exception]
  · intro f hf
    obtain ⟨⟨s, earlier⟩, _, rfl⟩ := List.mem_map.1 hf
    rw [kind_dead]
    split <;> rfl

/-- A rule that could make another one dead is one that decides. -/
theorem decides_of_eclipses {e : Rule} (h : eclipses site e r = true) :
    (e.isAllow || e.isBlock) = true := by
  rw [eclipses, Bool.and_eq_true] at h
  obtain ⟨haction, _⟩ := h
  split at haction
  · rw [haction, Bool.true_or]
  · rw [Rule.blocksNew, Bool.and_eq_true] at haction
    rw [haction.1, Bool.or_true]

variable {rules front back : List Rule}

theorem deadRules_insert (h : Bystander site r)
    (hwith : userOrder (site.withRules rules) = front ++ r :: back) :
    deadRules (site.withRules rules) =
      deadAfter site [] front ++
        (((eclipsedBy? site front r).map (r, ·)).toList ++ deadAfter site front back) := by
  rw [← deadAfter_insert h, deadRules_eq, hwith]
  exact deadAfter_withRules ..

/-- With the rule in its place among those that are compared, the report is the same exactly if
none of those before it makes it dead. -/
theorem findings_insert_iff (h : Bystander site r)
    (hwith : userOrder (site.withRules rules) = front ++ r :: back)
    (hwithout : userOrder site = front ++ back) :
    findings (site.withRules rules) = findings site ↔ eclipsedBy? site front r = none := by
  have hdeadWithout : deadRules site = deadAfter site [] front ++ deadAfter site front back := by
    rw [deadRules_eq, hwithout, deadAfter_append, List.nil_append]
  constructor
  · -- A dead rule makes one finding more, and no exception can make up for it.
    intro heq
    have hfilter := congrArg (List.filter (·.kind != .allowExceptionPattern)) heq
    rw [filter_findings, filter_findings] at hfilter
    have hlength := congrArg List.length hfilter
    rw [List.length_map, List.length_map, deadRules_insert h hwith, hdeadWithout,
      List.length_append, List.length_append, List.length_append] at hlength
    cases hdead : eclipsedBy? site front r with
    | none => rfl
    | some e =>
        rw [hdead, Option.map_some, Option.toList_some, List.length_singleton] at hlength
        omega
  · intro hnone
    have hdead : deadRules (site.withRules rules) = deadRules site := by
      rw [deadRules_insert h hwith, hdeadWithout, hnone]
      rfl
    have hids : deadAllowIds (site.withRules rules) = deadAllowIds site := by
      rw [deadAllowIds, hdead, deadAllowIds]
    have hexceptions : exceptions (site.withRules rules) = exceptions site := by
      rw [exceptions_eq, exceptions_eq, hids, hwith, hwithout, ← exceptionsAmong_insert h]
      exact exceptionsAmong_withRules ..
    rw [findings, findings, hdead, hexceptions]
    rfl

/-! ## Places among the rules that are compared -/

/-- Whether a rule is one of a user that decides; those are the ones that are compared. -/
def isRead (r : Rule) : Bool := r.isUserRule && (r.isAllow || r.isBlock)

theorem userOrder_eq_append (site : Site) (place : Nat) (n : Int) :
    userOrder site =
      (Rule.triedBefore n (site.rules.take place) (site.rules.drop place)).filter isRead ++
        (Rule.triedAfter n (site.rules.take place) (site.rules.drop place)).filter isRead := by
  rw [← List.filter_append, ← Rule.inOrder_append, List.take_append_drop]
  exact userOrder_eq_filter site

theorem userOrder_insertRule (hread : isRead r = true) :
    userOrder (site.insertRule place r) =
      (Rule.triedBefore r.index (site.rules.take place) (site.rules.drop place)).filter isRead ++
        r :: (Rule.triedAfter r.index (site.rules.take place)
          (site.rules.drop place)).filter isRead := by
  rw [← List.filter_cons_of_pos hread, ← List.filter_append, ← Rule.inOrder_insert]
  exact userOrder_eq_filter _

/-- A rule that contains no other and overlaps none changes the report exactly if it is a rule of a
user that is dead. -/
theorem findings_insertRule_iff (h : Bystander site r) :
    findings (site.insertRule place r) = findings site ↔
      (r.isUserRule = true → (r.isAllow || r.isBlock) = true →
        ∀ e ∈ Rule.triedBefore r.index (site.rules.take place) (site.rules.drop place),
          e.isUserRule = true → eclipses site e r = false) := by
  cases hread : isRead r with
  | false =>
      have hunread : ((r.isAllow || r.isBlock) && r.isUserRule) = false := by
        rw [Bool.and_comm]
        exact hread
      -- It is not compared with any other, so both sides hold.
      refine iff_of_true (findings_insertRule_of_unread hunread) fun huser haction => ?_
      rw [isRead, huser, haction] at hread
      cases hread
  | true =>
      obtain ⟨huser, haction⟩ := Bool.and_eq_true_iff.1 hread
      have hiff := findings_insert_iff h (userOrder_insertRule hread)
        (userOrder_eq_append site place r.index)
      rw [eclipsedBy?, List.find?_eq_none] at hiff
      refine hiff.trans ⟨fun hnone _ _ e he heuser => ?_, fun hnone e he => ?_⟩
      · cases heclipses : eclipses site e r with
        | false => rfl
        | true =>
            have heread : isRead e = true := by
              rw [isRead, heuser, decides_of_eclipses heclipses, Bool.and_self]
            exact absurd heclipses (hnone e (List.mem_filter.2 ⟨he, heread⟩))
      · obtain ⟨hbefore, heread⟩ := List.mem_filter.1 he
        obtain ⟨heuser, _⟩ := Bool.and_eq_true_iff.1 heread
        rw [hnone huser haction e hbefore heuser]
        exact Bool.false_ne_true

end SiteAudit.Audit.Shadowing

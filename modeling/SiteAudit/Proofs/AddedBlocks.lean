import SiteAudit.Proofs.Containment
import SiteAudit.Proofs.RuleTables

/-!
# Added block rules

Whoever adds a rule that blocks fresh connections wants networks to be kept
apart better, or as well as before.  The isolation check should never answer
with a finding that was not there, and never with a worse one.

Two things could go wrong.  The new rule may hide an allow rule that bypassed the
isolation, so that the next reason for a finding shows up behind it; and it may
hide it in one direction only.  Neither does harm: the new rule hides an allow
rule only where it decides itself, and there it blocks the pair, so that no
isolation is missing.  In the other direction nothing has changed.

## Main results

* `finding_eq_some_iff` — the three reasons for a finding about two networks.
* `bypass_insertRule` — a block rule takes a bypass away or leaves it alone.
* `finding_of_insertRule` — a finding that is there with a block rule was there
  without it.
* `added_block_never_worsens` — what becomes of each pair.
-/

namespace SiteAudit

namespace Audit.Isolation

variable {site : Site} {a b : Network} {f : Finding}

/-! ## Reasons for a finding -/

/-- A finding about two networks that should be kept apart is about a bypass in the first
direction, or else in the second, or else about isolation that is missing. -/
theorem finding_eq_some_iff :
    finding? site a b = some f ↔
      (a.isolated && b.isolated) = false ∧ ∃ severity, a.purpose.separation? b.purpose =
        some severity ∧
        ((∃ r, bypass? site a b = some r ∧ bypassed (description a b) r a b = f) ∨
          (bypass? site a b = none ∧
            ∃ r, bypass? site b a = some r ∧ bypassed (description a b) r b a = f) ∨
          (bypass? site a b = none ∧ bypass? site b a = none ∧ isBlocked site a b = false ∧
            missing severity a b = f)) := by
  rw [finding?]
  cases hisolated : a.isolated && b.isolated with
  | true => simp
  | false =>
      cases a.purpose.separation? b.purpose with
      | none => simp
      | some severity =>
          cases bypass? site a b with
          | some r => simp
          | none =>
              cases bypass? site b a with
              | some r => simp
              | none => cases isBlocked site a b <;> simp [eq_comm]

/-! ## One more block rule -/

variable {place : Nat} {r : Rule}

theorem isBlocked_insertRule (site : Site) (place : Nat) (r : Rule) (a b : Network) :
    isBlocked (site.insertRule place r) a b =
      ((blocks site a b r || blocks site b a r) || isBlocked site a b) :=
  site.any_insertRule place r fun s => blocks site a b s || blocks site b a s

/-- A block rule that can decide on traffic between two networks blocks it. -/
theorem blocks_of_isCandidate (hblocks : r.blocksNew = true) {newOnly : Bool}
    (h : Rule.isCandidate (site.rulesTraffic a b .everything) newOnly r = true) :
    blocks site a b r = true := by
  obtain ⟨henabled, _, htraffic, _⟩ := Rule.isCandidate_iff.1 h
  simp only [Site.rulesTraffic, Bool.and_eq_true] at htraffic
  obtain ⟨⟨hsource, hdestination⟩, _⟩ := htraffic
  simp [blocks, henabled, hblocks, hsource, hdestination]

/-- A block rule takes a bypass away, and then blocks the traffic, or leaves it alone. -/
theorem bypass_insertRule (site : Site) (place : Nat) (hblocks : r.blocksNew = true)
    (a b : Network) :
    bypass? (site.insertRule place r) a b = bypass? site a b ∨
      (bypass? (site.insertRule place r) a b = none ∧ blocks site a b r = true) := by
  rcases site.effective_insertRule place r a b .everything true with hsame | ⟨hnew, hdecides⟩
  · left
    rw [bypass?, hsame]
    rfl
  · right
    have haction : r.action = .block := (Rule.blocksNew_eq_true_iff.1 hblocks).1
    refine ⟨?_, blocks_of_isCandidate hblocks hdecides⟩
    rw [bypass?, hnew]
    simp [Rule.isAllow, haction]

/-- A bypass that is there with the block rule was there without it. -/
theorem bypass_of_insertRule (hblocks : r.blocksNew = true) {s : Rule}
    (h : bypass? (site.insertRule place r) a b = some s) : bypass? site a b = some s := by
  rcases bypass_insertRule site place hblocks a b with hsame | ⟨hnone, _⟩
  · rw [← hsame, h]
  · rw [hnone] at h
    cases h

/-- Where the block rule does not block, there is no bypass that it would have taken away. -/
theorem bypass_eq_none_of_insertRule (hblocks : r.blocksNew = true)
    (hnot : blocks site a b r = false) (h : bypass? (site.insertRule place r) a b = none) :
    bypass? site a b = none := by
  rcases bypass_insertRule site place hblocks a b with hsame | ⟨_, hyes⟩
  · rw [← hsame, h]
  · rw [hnot] at hyes
    cases hyes

/-- A finding that is there with a block rule was there without it, in one direction or the other.
If isolation is missing then the rule does not block the two networks, and the finding is the
same. -/
theorem finding_of_insertRule (hblocks : r.blocksNew = true) {g : Finding}
    (h : finding? (site.insertRule place r) a b = some g) :
    ∃ f, finding? site a b = some f ∧
      ((f.kind = .isolationBypassed ∧ g.kind = .isolationBypassed) ∨
        (f = g ∧ g.kind = .missingIsolation ∧
          (blocks site a b r || blocks site b a r) = false)) := by
  obtain ⟨hisolated, severity, hseverity, hreason⟩ := finding_eq_some_iff.1 h
  rcases hreason with ⟨s, hs, rfl⟩ | ⟨_, s, hs, rfl⟩ | ⟨hab, hba, hblocked, rfl⟩
  · -- The bypass in the first direction is an old one.
    have hold : bypass? site a b = some s := bypass_of_insertRule hblocks hs
    exact ⟨bypassed (description a b) s a b,
      finding_eq_some_iff.2 ⟨hisolated, severity, hseverity, Or.inl ⟨s, hold, rfl⟩⟩,
      Or.inl ⟨rfl, rfl⟩⟩
  · -- So is the one in the second direction, but it may have stood behind another one.
    have hold : bypass? site b a = some s := bypass_of_insertRule hblocks hs
    cases hfirst : bypass? site a b with
    | some t =>
        exact ⟨bypassed (description a b) t a b,
          finding_eq_some_iff.2 ⟨hisolated, severity, hseverity, Or.inl ⟨t, hfirst, rfl⟩⟩,
          Or.inl ⟨rfl, rfl⟩⟩
    | none =>
        exact ⟨bypassed (description a b) s b a,
          finding_eq_some_iff.2
            ⟨hisolated, severity, hseverity, Or.inr (Or.inl ⟨hfirst, s, hold, rfl⟩)⟩,
          Or.inl ⟨rfl, rfl⟩⟩
  · rw [isBlocked_insertRule, Bool.or_eq_false_iff] at hblocked
    obtain ⟨hnew, hold⟩ := hblocked
    obtain ⟨hnotab, hnotba⟩ := Bool.or_eq_false_iff.1 hnew
    have hfirst : bypass? site a b = none := bypass_eq_none_of_insertRule hblocks hnotab hab
    have hsecond : bypass? site b a = none := bypass_eq_none_of_insertRule hblocks hnotba hba
    exact ⟨missing severity a b,
      finding_eq_some_iff.2
        ⟨hisolated, severity, hseverity, Or.inr (Or.inr ⟨hfirst, hsecond, hold, rfl⟩)⟩,
      Or.inr ⟨rfl, rfl, hnew⟩⟩

/-! ## Summary -/

/-- **Adding a block rule never worsens isolation.**  At every site, let a rule that is in force
and blocks fresh connections be put in at any place, with any index.  Of two networks, whichever
comes first, the check then says nothing if it said nothing; the same or nothing if it said that
isolation is missing; and nothing, or that it is bypassed, perhaps in the other direction, if it
said so.  If the rule touches one of them with its source and the other one with its destination,
isolation is not missing. -/
theorem added_block_never_worsens (site : Site) (place : Nat) {r : Rule}
    (henabled : r.enabled = true) (hblocks : r.blocksNew = true) (a b : Network) :
    (finding? site a b = none → finding? (site.insertRule place r) a b = none) ∧
      (∀ f, finding? site a b = some f → f.kind = .missingIsolation →
        finding? (site.insertRule place r) a b = none ∨
          finding? (site.insertRule place r) a b = some f) ∧
      (∀ f, finding? site a b = some f → f.kind = .isolationBypassed →
        finding? (site.insertRule place r) a b = none ∨
          ∃ g, finding? (site.insertRule place r) a b = some g ∧ g.kind = .isolationBypassed) ∧
      ((site.selects r.source a .touches = true ∧ site.selects r.destination b .touches = true ∨
          site.selects r.source b .touches = true ∧
            site.selects r.destination a .touches = true) →
        ∀ g, finding? (site.insertRule place r) a b = some g → g.kind ≠ .missingIsolation) := by
  cases hafter : finding? (site.insertRule place r) a b with
  | none =>
      refine ⟨fun _ => rfl, fun f _ _ => Or.inl rfl, fun f _ _ => Or.inl rfl, fun _ g hg => ?_⟩
      cases hg
  | some g =>
      obtain ⟨f, hbefore, hkinds⟩ := finding_of_insertRule hblocks hafter
      rw [hbefore]
      refine ⟨?_, ?_, ?_, ?_⟩
      · intro hnone
        cases hnone
      · intro f' hf' hmissing
        cases hf'
        rcases hkinds with ⟨hf, _⟩ | ⟨hsame, _, _⟩
        · rw [hf] at hmissing
          cases hmissing
        · exact Or.inr (by rw [hsame])
      · intro f' hf' hbypassed
        cases hf'
        rcases hkinds with ⟨_, hg⟩ | ⟨hsame, hg, _⟩
        · exact Or.inr ⟨g, rfl, hg⟩
        · rw [hsame, hg] at hbypassed
          cases hbypassed
      · intro htouches g' hg' hmissing
        cases hg'
        have hyes : (blocks site a b r || blocks site b a r) = true := by
          rcases htouches with ⟨hsource, hdestination⟩ | ⟨hsource, hdestination⟩
          · simp [blocks, henabled, hblocks, hsource, hdestination]
          · simp [blocks, henabled, hblocks, hsource, hdestination]
        rcases hkinds with ⟨_, hg⟩ | ⟨_, _, hnot⟩
        · rw [hg] at hmissing
          cases hmissing
        · rw [hnot] at hyes
          cases hyes

end Audit.Isolation

/-- A network of visitors. -/
def visitors : Network :=
  { cameras with id := "visitors", name := "Visitors", vlan := 50, purpose := .guest
                 subnet := some (.ofBits .v4 0x0A320000 24) }

/-- Lets cameras and visitors reach each other. -/
def allowViewing : Rule :=
  { id := "viewing", name := "Viewing", action := .allow, enabled := true, predefined := false
    index := 5, protocol := ⟨.all, false⟩, stateType := .all, states := .empty
    source := ⟨.network ["cams", "visitors"] false, none, none, false⟩
    destination := ⟨.network ["cams", "visitors"] false, none, none, false⟩
    ruleset := none, hitCount := none }

/-- Keeps the addresses of visitors away from cameras. -/
def blockVisitors : Rule :=
  { allowViewing with
      id := "no-visitors", name := "No visitors", action := .block, index := 1
      source := ⟨.ip ["10.50.0.0/16"] false, none, none, false⟩
      destination := ⟨.network ["cams"] false, none, none, false⟩ }

namespace Audit.Isolation

/-- The rule that keeps visitors away takes one bypass away.  The finding about the two networks
is then about the other direction, and no isolation is missing. -/
theorem added_block_never_worsens_visitors :
    let site := Site.ofRules [allowViewing] [visitors, cameras]
    finding? site visitors cameras =
        some (bypassed "Guest <-> Security" allowViewing visitors cameras) ∧
      finding? (site.insertRule 0 blockVisitors) visitors cameras =
        some (bypassed "Guest <-> Security" allowViewing cameras visitors) ∧
      (∃ g, finding? (site.insertRule 0 blockVisitors) visitors cameras = some g ∧
        g.kind = .isolationBypassed) ∧
      ∀ g, finding? (site.insertRule 0 blockVisitors) visitors cameras = some g →
        g.kind ≠ .missingIsolation := by
  intro site
  have horder : Rule.inOrder site.rules = [allowViewing] := Rule.inOrder_of_pairwise (by decide)
  have horder' : Rule.inOrder (site.insertRule 0 blockVisitors).rules =
      [blockVisitors, allowViewing] := Rule.inOrder_of_pairwise (by decide)
  have hbypass : bypass? site visitors cameras = some allowViewing := by
    rw [bypass?, Site.trace, Rule.effective_eq_find, horder]
    decide
  have hgone : bypass? (site.insertRule 0 blockVisitors) visitors cameras = none := by
    rw [bypass?, Site.trace, Rule.effective_eq_find, horder']
    decide
  have hleft : bypass? (site.insertRule 0 blockVisitors) cameras visitors =
      some allowViewing := by
    rw [bypass?, Site.trace, Rule.effective_eq_find, horder']
    decide
  have hbefore : finding? site visitors cameras =
      some (bypassed "Guest <-> Security" allowViewing visitors cameras) :=
    finding_eq_some_iff.2 ⟨rfl, .critical, rfl, Or.inl ⟨allowViewing, hbypass, rfl⟩⟩
  have hafter : finding? (site.insertRule 0 blockVisitors) visitors cameras =
      some (bypassed "Guest <-> Security" allowViewing cameras visitors) :=
    finding_eq_some_iff.2
      ⟨rfl, .critical, rfl, Or.inr (Or.inl ⟨hgone, allowViewing, hleft, rfl⟩)⟩
  obtain ⟨_, _, hbypassed, htouched⟩ := added_block_never_worsens site 0 (r := blockVisitors)
    (by decide) (by decide) visitors cameras
  refine ⟨hbefore, hafter, ?_, htouched (Or.inl (by decide))⟩
  rcases hbypassed _ hbefore rfl with hnone | hsome
  · rw [hafter] at hnone
    cases hnone
  · exact hsome

end Audit.Isolation

end SiteAudit

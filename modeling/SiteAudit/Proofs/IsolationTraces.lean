import Mathlib.Data.List.Basic
import Mathlib.Data.List.Nodup
import SiteAudit.Proofs.AddedBlocks

/-!
# Isolation as traces see it

The isolation check looks at the same rules in two ways.  That isolation is
missing it finds by asking whether any rule blocks, in whatever order; that it is
bypassed, by asking which rule decides.  The two should tell one story, and it
should be the story that a trace tells.

They do because a trace that ends in a block ends in a rule which blocks: the
order decides which rule it is, not whether there is one.  So where isolation is
said to be missing no trace is blocked, neither among fresh connections nor among
all, and where it is said to be bypassed a trace names the rule.

## Main results

* `Rule.blocked_evaluate`, `Rule.allowed_evaluate` — what an outcome says of the
  rule that decides.
* `mem_pairs_zipIdx`, `findings_eq_flatMap` — every two places are looked at once.
* `blocked_eq_false_of_missing`, `Bypasses.of_finding` — each kind of finding, as a
  trace sees it.
* `findings_agree_with_traces` — all of it together.
-/

namespace SiteAudit

/-! ## Outcomes -/

namespace Rule

variable (rules : List Rule) (applies : Rule → Bool) (newOnly : Bool)

theorem blocked_evaluate :
    (evaluate rules applies newOnly).blocked =
      (evaluate rules applies newOnly).effective.any blocksNew := by
  rw [evaluate]
  cases inOrder (candidates rules applies newOnly) <;> rfl

theorem allowed_evaluate :
    (evaluate rules applies newOnly).allowed =
      (evaluate rules applies newOnly).effective.any isAllow := by
  rw [evaluate]
  cases inOrder (candidates rules applies newOnly) <;> rfl

end Rule

namespace Audit.Isolation

/-! ## Pairs of places -/

section Pairs

variable {α β : Type}

theorem pairs_map (f : α → β) (list : List α) :
    pairs (list.map f) = (pairs list).map fun p => (f p.1, f p.2) := by
  induction list with
  | nil => rfl
  | cons a rest ih => simp [pairs, ih]

/-- The pairs of a list are the elements at two places, the earlier one first. -/
theorem mem_pairs_iff_getElem {list : List α} {a b : α} :
    (a, b) ∈ pairs list ↔
      ∃ i j : Nat, i < j ∧ list[i]? = some a ∧ list[j]? = some b := by
  induction list with
  | nil => simp [pairs]
  | cons c rest ih =>
      simp only [pairs, List.mem_append, List.mem_map, Prod.mk.injEq, ih]
      constructor
      · rintro (⟨d, hd, rfl, rfl⟩ | ⟨i, j, hij, ha, hb⟩)
        · obtain ⟨j, hj⟩ := List.mem_iff_getElem?.1 hd
          exact ⟨0, j + 1, Nat.succ_pos j, rfl, hj⟩
        · exact ⟨i + 1, j + 1, Nat.succ_lt_succ hij, ha, hb⟩
      · rintro ⟨i, j, hij, ha, hb⟩
        cases j with
        | zero => omega
        | succ j =>
            cases i with
            | zero => exact Or.inl ⟨b, List.mem_of_getElem? hb, Option.some.inj ha, rfl⟩
            | succ i => exact Or.inr ⟨i, j, Nat.lt_of_succ_lt_succ hij, ha, hb⟩

theorem nodup_pairs {list : List α} (h : list.Nodup) : (pairs list).Nodup := by
  induction list with
  | nil => exact List.nodup_nil
  | cons a rest ih =>
      obtain ⟨hfresh, hrest⟩ := List.nodup_cons.1 h
      refine List.nodup_append.2 ⟨?_, ih hrest, ?_⟩
      · exact hrest.map fun _ _ heq => (Prod.mk.inj heq).2
      · rintro p hp q hq rfl
        obtain ⟨b, _, rfl⟩ := List.mem_map.1 hp
        obtain ⟨i, _, _, ha, _⟩ := mem_pairs_iff_getElem.1 hq
        exact hfresh (List.mem_of_getElem? ha)

/-- With their places, the pairs of a list are all pairs of places in order. -/
theorem mem_pairs_zipIdx {list : List α} {a b : α} {i j : Nat} :
    ((a, i), (b, j)) ∈ pairs list.zipIdx ↔
      i < j ∧ list[i]? = some a ∧ list[j]? = some b := by
  rw [mem_pairs_iff_getElem]
  simp only [List.getElem?_zipIdx, Nat.zero_add, Option.map_eq_some_iff, Prod.mk.injEq]
  constructor
  · rintro ⟨_, _, hij, ⟨_, ha, rfl, rfl⟩, ⟨_, hb, rfl, rfl⟩⟩
    exact ⟨hij, ha, hb⟩
  · rintro ⟨hij, ha, hb⟩
    exact ⟨i, j, hij, ⟨a, ha, rfl, rfl⟩, ⟨b, hb, rfl, rfl⟩⟩

theorem nodup_pairs_zipIdx (list : List α) : (pairs list.zipIdx).Nodup := by
  have hplaces : (list.zipIdx.map Prod.snd).Nodup := by
    rw [List.zipIdx_map_snd]
    exact List.nodup_range'
  exact nodup_pairs (List.Nodup.of_map Prod.snd hplaces)

end Pairs

variable {site : Site} {a b : Network} {f : Finding} {r : Rule} {newOnly : Bool}

/-- What the check says, pair by pair: about each two places once, and not more than one thing. -/
theorem findings_eq_flatMap (site : Site) :
    findings site = (pairs site.networks.zipIdx).flatMap fun p =>
      (finding? site p.1.1 p.2.1).toList := by
  have hpairs : pairs site.networks =
      (pairs site.networks.zipIdx).map fun p => (p.1.1, p.2.1) := by
    rw [← pairs_map, List.zipIdx_map_fst]
  rw [findings, hpairs, List.filterMap_map, List.filterMap_eq_flatMap_toList]
  rfl

/-! ## Isolation that is missing -/

/-- A trace that is blocked ends in a rule that blocks. -/
theorem isBlocked_of_blocked (h : (site.trace a b .everything newOnly).blocked = true) :
    isBlocked site a b = true := by
  rw [Site.trace, Rule.blocked_evaluate] at h
  obtain ⟨r, heffective, hblocks⟩ := (Option.any_eq_true _ _).1 h
  have hfirst := Rule.effective_eq_some_iff.1 heffective
  have hab : blocks site a b r = true := blocks_of_isCandidate hblocks hfirst.prop
  exact List.any_eq_true.2 ⟨r, hfirst.mem, by rw [hab, Bool.true_or]⟩

theorem isBlocked_comm (site : Site) (a b : Network) : isBlocked site a b = isBlocked site b a := by
  simp only [isBlocked, Bool.or_comm]

/-- Where isolation is missing, no rule blocks. -/
theorem isBlocked_of_missing (h : finding? site a b = some f) (hkind : f.kind = .missingIsolation) :
    isBlocked site a b = false := by
  obtain ⟨_, severity, _, hreason⟩ := finding_eq_some_iff.1 h
  rcases hreason with ⟨r, _, rfl⟩ | ⟨_, r, _, rfl⟩ | ⟨_, _, hblocked, _⟩
  · cases hkind
  · cases hkind
  · exact hblocked

/-- Where isolation is missing, no trace is blocked, in either direction. -/
theorem blocked_eq_false_of_missing (h : finding? site a b = some f)
    (hkind : f.kind = .missingIsolation) (newOnly : Bool) :
    (site.trace a b .everything newOnly).blocked = false ∧
      (site.trace b a .everything newOnly).blocked = false := by
  have hnot : isBlocked site a b = false := isBlocked_of_missing h hkind
  rw [Bool.eq_false_iff, Bool.eq_false_iff]
  refine ⟨fun hout => ?_, fun hin => ?_⟩
  · rw [isBlocked_of_blocked hout] at hnot
    cases hnot
  · rw [isBlocked_comm, isBlocked_of_blocked hin] at hnot
    cases hnot

/-! ## Isolation that is bypassed -/

theorem bypass_eq_some_iff :
    bypass? site a b = some r ↔
      (site.trace a b .everything true).effective = some r ∧ r.isAllow = true ∧
        r.predefined = false ∧ namesSource r = true ∧ site.isExternal r.destination = false := by
  simp [bypass?, Option.filter_eq_some_iff, and_assoc]

/-- A finding names a rule and the two networks between which it lets connections be opened. -/
structure Names (f : Finding) (r : Rule) (source destination : Network) : Prop where
  ruleId : f.ruleId = some r.id
  currentNetwork : f.currentNetwork = some source.name
  currentVlan : f.currentVlan = some source.vlan
  details : f.details.entries = [("destination_network_id", destination.id)]

/-- A rule of a user that is in force and decides on fresh connections, so that a trace allows
them. -/
structure Bypasses (site : Site) (r : Rule) (source destination : Network) : Prop where
  mem : r ∈ site.rules
  enabled : r.enabled = true
  predefined : r.predefined = false
  effective : (site.trace source destination .everything true).effective = some r
  allowed : (site.trace source destination .everything true).allowed = true

theorem names_bypassed (text : String) (r : Rule) (source destination : Network) :
    Names (bypassed text r source destination) r source destination := ⟨rfl, rfl, rfl, rfl⟩

theorem Bypasses.of_bypass (h : bypass? site a b = some r) : Bypasses site r a b := by
  obtain ⟨heffective, hallow, hpredefined, _, _⟩ := bypass_eq_some_iff.1 h
  have hfirst := Rule.effective_eq_some_iff.1 heffective
  refine ⟨hfirst.mem, (Rule.isCandidate_iff.1 hfirst.prop).1, hpredefined, heffective, ?_⟩
  rw [Site.trace, Rule.allowed_evaluate]
  rw [Site.trace] at heffective
  rw [heffective]
  exact hallow

/-- Where isolation is bypassed, a trace in one of the directions names the rule. -/
theorem Bypasses.of_finding (h : finding? site a b = some f)
    (hkind : f.kind = .isolationBypassed) :
    ∃ r, Names f r a b ∧ Bypasses site r a b ∨ Names f r b a ∧ Bypasses site r b a := by
  obtain ⟨_, severity, _, hreason⟩ := finding_eq_some_iff.1 h
  rcases hreason with ⟨r, hr, rfl⟩ | ⟨_, r, hr, rfl⟩ | ⟨_, _, _, rfl⟩
  · exact ⟨r, Or.inl ⟨names_bypassed _ r a b, .of_bypass hr⟩⟩
  · exact ⟨r, Or.inr ⟨names_bypassed _ r b a, .of_bypass hr⟩⟩
  · cases hkind

/-! ## Summary -/

/-- **The isolation check agrees with traces.**  At every site, the findings of the check are those
about every two places of the list of networks, each two places once and with one finding at most.
If it says of two networks that isolation is missing then traces between them are blocked in
neither direction, neither of fresh connections nor of all; so where some trace is blocked, it
never says so.  If it says that isolation is bypassed, then it names a rule in force of a user, and
in one of the directions the trace of fresh connections is allowed, and by that rule.  It never
says both. -/
theorem findings_agree_with_traces (site : Site) :
    (findings site = (pairs site.networks.zipIdx).flatMap fun p =>
        (finding? site p.1.1 p.2.1).toList) ∧
      (pairs site.networks.zipIdx).Nodup ∧
      (∀ a b i j, ((a, i), (b, j)) ∈ pairs site.networks.zipIdx ↔
        i < j ∧ site.networks[i]? = some a ∧ site.networks[j]? = some b) ∧
      ∀ a b, (finding? site a b).toList.length ≤ 1 ∧
        (∀ f ∈ (finding? site a b).toList, f.kind = .missingIsolation → ∀ newOnly,
          (site.trace a b .everything newOnly).blocked = false ∧
            (site.trace b a .everything newOnly).blocked = false) ∧
        (∀ newOnly, (site.trace a b .everything newOnly).blocked = true ∨
            (site.trace b a .everything newOnly).blocked = true →
          ∀ f ∈ (finding? site a b).toList, f.kind ≠ .missingIsolation) ∧
        (∀ f ∈ (finding? site a b).toList, f.kind = .isolationBypassed →
          ∃ r, Names f r a b ∧ Bypasses site r a b ∨ Names f r b a ∧ Bypasses site r b a) ∧
        ∀ f ∈ (finding? site a b).toList, ∀ g ∈ (finding? site a b).toList,
          f.kind = .isolationBypassed → g.kind ≠ .missingIsolation := by
  refine ⟨findings_eq_flatMap site, nodup_pairs_zipIdx _, fun _ _ _ _ => mem_pairs_zipIdx,
    fun a b => ?_⟩
  simp only [Option.mem_toList]
  refine ⟨Option.length_toList_le, fun f hf hmissing newOnly => ?_,
    fun newOnly hblocked f hf hmissing => ?_, fun f hf hbypassed => ?_,
    fun f hf g hg hbypassed hmissing => ?_⟩
  · exact blocked_eq_false_of_missing hf hmissing newOnly
  · obtain ⟨hout, hin⟩ := blocked_eq_false_of_missing hf hmissing newOnly
    rw [hout, hin] at hblocked
    simp at hblocked
  · exact Bypasses.of_finding hf hbypassed
  · rw [Option.mem_def.1 hf] at hg
    cases hg
    rw [hbypassed] at hmissing
    cases hmissing

end Audit.Isolation

/-- A network of sensors. -/
def sensors : Network :=
  { visitors with id := "sensors", name := "Sensors", vlan := 70, purpose := .iot
                  subnet := some (.ofBits .v4 0x0A460000 24) }

/-- Three networks, and a rule that lets two of them reach each other. -/
def viewingSite : Site := .ofRules [allowViewing] [visitors, cameras, sensors]

theorem inOrder_viewingSite : Rule.inOrder viewingSite.rules = [allowViewing] :=
  Rule.inOrder_of_pairwise (by decide)

namespace Audit.Isolation

theorem finding_viewingSite :
    finding? viewingSite visitors cameras =
      some (bypassed "Guest <-> Security" allowViewing visitors cameras) := by
  have hdecides : bypass? viewingSite visitors cameras = some allowViewing := by
    rw [bypass?, Site.trace, Rule.effective_eq_find, inOrder_viewingSite]
    decide
  exact finding_eq_some_iff.2 ⟨rfl, .critical, rfl, Or.inl ⟨allowViewing, hdecides, rfl⟩⟩

/-- Of three networks, two may reach each other by a rule, and the third one is kept apart from
neither.  A trace names the rule, and no trace to the third network is blocked. -/
theorem findings_agree_with_traces_sensors :
    let bypass := bypassed "Guest <-> Security" allowViewing visitors cameras
    let gap := missing .recommended visitors sensors
    finding? viewingSite visitors cameras = some bypass ∧ bypass.kind = .isolationBypassed ∧
      (∃ r, Names bypass r visitors cameras ∧ Bypasses viewingSite r visitors cameras ∨
        Names bypass r cameras visitors ∧ Bypasses viewingSite r cameras visitors) ∧
      finding? viewingSite visitors sensors = some gap ∧ gap.kind = .missingIsolation ∧
      (viewingSite.trace visitors sensors .everything false).blocked = false ∧
      (viewingSite.trace sensors visitors .everything false).blocked = false := by
  intro bypass gap
  have hout : bypass? viewingSite visitors sensors = none := by
    rw [bypass?, Site.trace, Rule.effective_eq_find, inOrder_viewingSite]
    decide
  have hin : bypass? viewingSite sensors visitors = none := by
    rw [bypass?, Site.trace, Rule.effective_eq_find, inOrder_viewingSite]
    decide
  have hgap : finding? viewingSite visitors sensors = some gap :=
    finding_eq_some_iff.2
      ⟨rfl, .recommended, rfl, Or.inr (Or.inr ⟨hout, hin, by decide, rfl⟩)⟩
  obtain ⟨_, _, _, hpairs⟩ := findings_agree_with_traces viewingSite
  obtain ⟨_, _, _, hbypassed, _⟩ := hpairs visitors cameras
  obtain ⟨_, hmissing, _⟩ := hpairs visitors sensors
  obtain ⟨htrace, hback⟩ := hmissing gap (Option.mem_toList.2 hgap) rfl false
  exact ⟨finding_viewingSite, rfl,
    hbypassed bypass (Option.mem_toList.2 finding_viewingSite) rfl, hgap, rfl, htrace, hback⟩

end Audit.Isolation

end SiteAudit

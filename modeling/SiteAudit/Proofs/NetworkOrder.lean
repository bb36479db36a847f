import SiteAudit.Proofs.FindingGrades
import SiteAudit.Proofs.IsolationTraces
import SiteAudit.Proofs.ScoreSums

/-!
# The order in which networks are listed

The isolation check goes through the networks in pairs and takes the one that is
listed first for the first of the two.  Listed in another order, two networks may
change places: the check tries the directions the other way round, and says other
things about them.  What its findings count for should not change.

It does not, since every part of a finding that counts treats both networks alike:
how badly two purposes have to be kept apart, whether a rule blocks in one of the
directions, and whether there is a bypass in one of them.  That every pair is met
once, whatever the order, is a matter of lists.

## Main results

* `perm_filterMap_pairs` — what is asked of pairs in either order, for a list in
  another order.
* `grade_finding_comm` — the grade of a finding does not depend on which network
  comes first.
* `length_findingsAbout_le_one` — where ids are distinct, there is at most one finding
  about two of them.
* `reordered_networks` — all of it together.
-/

namespace SiteAudit

/-- The site with other networks in place of its own. -/
def Site.withNetworks (site : Site) (networks : List Network) : Site :=
  { site with networks := networks }

namespace Audit.Isolation

/-! ## Pairs of a list in another order -/

theorem filterMap_pairs_cons {α β : Type} (g : α → α → Option β) (a : α) (rest : List α) :
    (pairs (a :: rest)).filterMap (fun p => g p.1 p.2) =
      rest.filterMap (g a) ++ (pairs rest).filterMap fun p => g p.1 p.2 := by
  rw [pairs, List.filterMap_append, List.filterMap_map]
  rfl

/-- What is asked of two elements whichever of them comes first has the same answers for a list in
another order. -/
theorem perm_filterMap_pairs {α β : Type} {g : α → α → Option β} (hcomm : ∀ a b, g a b = g b a)
    {list list' : List α} (h : list.Perm list') :
    ((pairs list).filterMap fun p => g p.1 p.2).Perm
      ((pairs list').filterMap fun p => g p.1 p.2) := by
  induction h with
  | nil => exact .nil
  | cons a hrest ih =>
      rw [filterMap_pairs_cons, filterMap_pairs_cons]
      exact (hrest.filterMap (g a)).append ih
  | swap a b rest =>
      simp only [filterMap_pairs_cons, List.filterMap_cons, hcomm b a, ← List.append_assoc]
      refine List.Perm.append_right _ ?_
      cases g a b with
      | none => exact List.perm_append_comm
      | some c => exact (List.perm_append_comm).cons c
  | trans _ _ ih ih' => exact ih.trans ih'

/-! ## Two networks in either order -/

variable {site : Site} {a b : Network}

theorem finding_withNetworks (site : Site) (networks : List Network) (a b : Network) :
    finding? (site.withNetworks networks) a b = finding? site a b := rfl

/-- What a finding about two networks counts for does not depend on which comes first. -/
theorem grade_finding_comm (site : Site) (a b : Network) :
    (finding? site a b).map Finding.grade = (finding? site b a).map Finding.grade := by
  have hisolated : (b.isolated && a.isolated) = (a.isolated && b.isolated) := Bool.and_comm ..
  rw [finding?, finding?, hisolated, Purpose.separation_comm b.purpose, isBlocked_comm site b a]
  split
  · rfl
  · cases a.purpose.separation? b.purpose with
    | none => rfl
    | some severity =>
        -- A bypass in one direction hides one in the other, and both count alike.
        cases bypass? site a b with
        | some r => cases bypass? site b a <;> simp
        | none =>
            cases bypass? site b a with
            | some s => simp
            | none => cases isBlocked site a b <;> simp

/-! ## Findings about two ids -/

/-- Whether two networks are those with two ids, whichever of them comes first. -/
def joins (x y : String) (p : Network × Network) : Bool :=
  (p.1.id == x && p.2.id == y) || (p.1.id == y && p.2.id == x)

/-- What the check says about networks with two ids. -/
def findingsAbout (site : Site) (x y : String) : List Finding :=
  ((pairs site.networks).filter (joins x y)).filterMap fun p => finding? site p.1 p.2

theorem joins_iff {x y : String} {p : Network × Network} :
    joins x y p = true ↔ p.1.id = x ∧ p.2.id = y ∨ p.1.id = y ∧ p.2.id = x := by
  simp [joins]

theorem joins_swap (x y : String) (a b : Network) : joins x y (a, b) = joins x y (b, a) := by
  rw [Bool.eq_iff_iff, joins_iff, joins_iff]
  simp only [and_comm, or_comm]

/-- Every finding is about the networks with two ids. -/
theorem mem_findings_iff {f : Finding} :
    f ∈ findings site ↔ ∃ x y, f ∈ findingsAbout site x y := by
  simp only [findings, findingsAbout, List.mem_filterMap, List.mem_filter]
  constructor
  · rintro ⟨⟨a, b⟩, hpair, hf⟩
    exact ⟨a.id, b.id, (a, b), ⟨hpair, joins_iff.2 (Or.inl ⟨rfl, rfl⟩)⟩, hf⟩
  · rintro ⟨x, y, p, ⟨hpair, _⟩, hf⟩
    exact ⟨p, hpair, hf⟩

/-- A list without repeats whose elements are all the same has at most one. -/
theorem length_le_one_of_nodup {α : Type} {list : List α} (hnodup : list.Nodup)
    (hsame : ∀ a ∈ list, ∀ b ∈ list, a = b) : list.length ≤ 1 := by
  match list, hnodup with
  | [], _ => exact Nat.zero_le 1
  | [_], _ => exact Nat.le_refl 1
  | a :: b :: rest, hnodup =>
      have hab : a = b := hsame a (by simp) b (by simp)
      simp [hab] at hnodup

theorem eq_of_perm_of_length_le_one {α : Type} {list list' : List α} (h : list'.Perm list)
    (hone : list.length ≤ 1) : list' = list := by
  match list, hone with
  | [], _ => exact List.perm_nil.1 h
  | [_], _ => exact List.perm_singleton.1 h

/-- Where ids are distinct, there is one place for an id. -/
theorem place_eq_of_id {networks : List Network} (hids : (networks.map Network.id).Nodup)
    {i j : Nat} (ha : networks[i]? = some a) (hb : networks[j]? = some b) (hid : a.id = b.id) :
    i = j ∧ a = b := by
  have hi : (networks.map Network.id)[i]? = some b.id := by rw [List.getElem?_map, ha, ← hid]; rfl
  have hj : (networks.map Network.id)[j]? = some b.id := by rw [List.getElem?_map, hb]; rfl
  have hlt := (List.getElem?_eq_some_iff.1 hi).1
  have hij : i = j := (List.getElem?_inj hlt hids).1 (hi.trans hj.symm)
  subst hij
  exact ⟨rfl, Option.some.inj (ha.symm.trans hb)⟩

/-- Where ids are distinct, one pair of networks has two given ids. -/
theorem eq_of_joins {networks : List Network} (hids : (networks.map Network.id).Nodup)
    {x y : String} {p q : Network × Network} (hp : p ∈ pairs networks) (hq : q ∈ pairs networks)
    (hjoinsp : joins x y p = true) (hjoinsq : joins x y q = true) : p = q := by
  obtain ⟨a, b⟩ := p
  obtain ⟨c, d⟩ := q
  obtain ⟨i, j, hij, ha, hb⟩ := mem_pairs_iff_getElem.1 hp
  obtain ⟨k, l, hkl, hc, hd⟩ := mem_pairs_iff_getElem.1 hq
  have hsame : a.id = c.id → b.id = d.id → (a, b) = (c, d) := fun hac hbd => by
    rw [(place_eq_of_id hids ha hc hac).2, (place_eq_of_id hids hb hd hbd).2]
  -- The same two networks the other way round would stand in the other order.
  have hcrossed : a.id = d.id → b.id = c.id → False := fun had hbc => by
    have hil := (place_eq_of_id hids ha hd had).1
    have hjk := (place_eq_of_id hids hb hc hbc).1
    omega
  rcases joins_iff.1 hjoinsp with ⟨rfl, rfl⟩ | ⟨rfl, rfl⟩ <;>
    rcases joins_iff.1 hjoinsq with ⟨hcid, hdid⟩ | ⟨hcid, hdid⟩
  · exact hsame hcid.symm hdid.symm
  · exact (hcrossed hdid.symm hcid.symm).elim
  · exact (hcrossed hdid.symm hcid.symm).elim
  · exact hsame hcid.symm hdid.symm

theorem length_findingsAbout_le_one (hids : (site.networks.map Network.id).Nodup) (x y : String) :
    (findingsAbout site x y).length ≤ 1 := by
  have hnodup : (pairs site.networks).Nodup := nodup_pairs (List.Nodup.of_map _ hids)
  refine Nat.le_trans (List.length_filterMap_le _ _)
    (length_le_one_of_nodup (hnodup.filter _) fun p hp q hq => ?_)
  obtain ⟨hp, hjoinsp⟩ := List.mem_filter.1 hp
  obtain ⟨hq, hjoinsq⟩ := List.mem_filter.1 hq
  exact eq_of_joins hids hp hq hjoinsp hjoinsq

/-! ## Reordering -/

/-- The grades of what is found, for a list of networks in another order. -/
theorem perm_grades {networks : List Network} (h : networks.Perm site.networks) :
    ((findings (site.withNetworks networks)).map Finding.grade).Perm
      ((findings site).map Finding.grade) := by
  simp only [findings, List.map_filterMap, finding_withNetworks]
  exact perm_filterMap_pairs (grade_finding_comm site) h

/-- The points of findings are part of their grades. -/
theorem total_withNetworks {networks : List Network} (h : networks.Perm site.networks) :
    Report.total (findings (site.withNetworks networks)) = Report.total (findings site) := by
  have himpacts := (perm_grades h).map Grade.impact
  rw [List.map_map, List.map_map] at himpacts
  exact Report.total_eq_of_perm himpacts

theorem map_grade_findingsAbout (site : Site) (x y : String) :
    (findingsAbout site x y).map Finding.grade =
      (pairs site.networks).filterMap fun p =>
        if joins x y p then (finding? site p.1 p.2).map Finding.grade else none := by
  rw [findingsAbout, List.map_filterMap, List.filterMap_filter]

theorem perm_grades_about {networks : List Network} (h : networks.Perm site.networks)
    (x y : String) :
    ((findingsAbout (site.withNetworks networks) x y).map Finding.grade).Perm
      ((findingsAbout site x y).map Finding.grade) := by
  simp only [map_grade_findingsAbout, finding_withNetworks]
  refine perm_filterMap_pairs (g := fun a b =>
    if joins x y (a, b) then (finding? site a b).map Finding.grade else none) ?_ h
  intro a b
  rw [joins_swap, grade_finding_comm]

/-- **The order in which networks are listed does not matter to the isolation check.**  At every
site whose networks have distinct ids, let the networks be listed in any other order.  About each
two ids the check says one thing at most, and in both orders something of the same grade: nothing,
a bypass, or missing isolation of one severity and one number of points.  These are all findings
that there are, and so both orders have the same number of them, the same sum of points and the
same score, or both no report for too many points. -/
theorem reordered_networks (site : Site) (networks : List Network)
    (hids : (site.networks.map Network.id).Nodup) (h : networks.Perm site.networks) :
    (∀ x y, (findingsAbout site x y).length ≤ 1 ∧
        (findingsAbout (site.withNetworks networks) x y).length ≤ 1 ∧
        (findingsAbout (site.withNetworks networks) x y).map Finding.grade =
          (findingsAbout site x y).map Finding.grade) ∧
      (∀ f, f ∈ findings site ↔ ∃ x y, f ∈ findingsAbout site x y) ∧
      (∀ f, f ∈ findings (site.withNetworks networks) ↔
        ∃ x y, f ∈ findingsAbout (site.withNetworks networks) x y) ∧
      (findings (site.withNetworks networks)).length = (findings site).length ∧
      Report.total (findings (site.withNetworks networks)) = Report.total (findings site) ∧
      (Report.ofFindings? (findings (site.withNetworks networks))).map Report.score =
        (Report.ofFindings? (findings site)).map Report.score := by
  have hids' : ((site.withNetworks networks).networks.map Network.id).Nodup :=
    (h.map Network.id).nodup_iff.2 hids
  have htotal := total_withNetworks h
  refine ⟨fun x y => ?_, fun _ => mem_findings_iff, fun _ => mem_findings_iff, ?_, htotal, ?_⟩
  · have hone := length_findingsAbout_le_one hids x y
    refine ⟨hone, length_findingsAbout_le_one hids' x y, ?_⟩
    exact eq_of_perm_of_length_le_one (perm_grades_about h x y) (by rwa [List.length_map])
  · have hlength := (perm_grades h).length_eq
    rwa [List.length_map, List.length_map] at hlength
  · exact Report.map_score_congr htotal

/-- With the cameras listed before the visitors, the check tries the other direction first.  It
finds the same bypass once more. -/
theorem reordered_networks_viewingSite :
    let networks := [sensors, cameras, visitors]
    (viewingSite.networks.map Network.id).Nodup ∧ networks.Perm viewingSite.networks ∧
      (findingsAbout (viewingSite.withNetworks networks) "visitors" "cams").map Finding.grade =
        [FindingKind.isolationBypassed.grade] ∧
      Report.total (findings (viewingSite.withNetworks networks)) =
        Report.total (findings viewingSite) := by
  intro networks
  have hids : (viewingSite.networks.map Network.id).Nodup := by decide
  have h : networks.Perm viewingSite.networks := List.reverse_perm [visitors, cameras, sensors]
  obtain ⟨hpairs, _, _, _, htotal, _⟩ := reordered_networks viewingSite networks hids h
  refine ⟨hids, h, ?_, htotal⟩
  have hpair : (pairs viewingSite.networks).filter (joins "visitors" "cams") =
      [(visitors, cameras)] := by decide
  rw [(hpairs "visitors" "cams").2.2, findingsAbout, hpair, List.filterMap_cons,
    finding_viewingSite]
  rfl

end Audit.Isolation

end SiteAudit

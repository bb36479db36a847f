import SiteAudit.Proofs.AddressTrace
import SiteAudit.Proofs.CommonTraffic
import SiteAudit.Proofs.DeadRules
import SiteAudit.Proofs.RuleOrder

/-!
# Exceptions to block rules

An allow rule makes an exception to a later block rule if it takes some of what
that rule matches, but not all.  Such a rule is reported, unless it exists to give
a management network a service that it needs.  If an earlier rule makes it dead,
this is what is reported instead.

Whether it is found depends on both comparisons of rules.  A flow that both rules
match shows that they overlap, and one that the block rule alone matches shows
that the allow rule does not contain it.  Containment is never claimed wrongly, so
the second part always works.  The first part works only where targets compare: a
client of a blocked network, or any client where all but one network is blocked,
is taken to have nothing to do with the network, and the exception is missed.

## Main results

* `comesBefore_iff` — one rule comes before another exactly if it is tried first.
* `mem_exceptions` — the exceptions by their places in the order.
* `exempts_iff_comparable` — where two flows show an exception, it is seen exactly if
  the targets of the rules compare.
* `carved_block_reported` — the exceptions that are reported.
* `carved_client_unreported` — one that is not.
-/

namespace SiteAudit

/-- Whether the targets of two rules compare on both sides. -/
def Rule.comparable (a b : Rule) : Bool :=
  a.source.target.comparable b.source.target &&
    a.destination.target.comparable b.destination.target

/-- Rules with targets that compare and a flow in common overlap, also where subnets do. -/
theorem Rule.overlaps_of_appliesTo {site : Site} (hids : (site.networks.map Network.id).Nodup)
    {f : Flow} (haddressed : f.IsAddressedIn site) (hknown : f.IsKnownTo site) {a b : Rule}
    (hatrim : a.HasTrimmedDomains) (hbtrim : b.HasTrimmedDomains)
    (hcomparable : a.comparable b = true) (ha : a.appliesTo f = true) (hb : b.appliesTo f = true) :
    Scope.rulesOverlap site a b = true := by
  rw [comparable, Bool.and_eq_true] at hcomparable
  obtain ⟨haprotocol, hastate, hafrom, hato⟩ := appliesTo_iff.1 ha
  obtain ⟨hbprotocol, hbstate, hbfrom, hbto⟩ := appliesTo_iff.1 hb
  have hsources := Endpoint.overlaps_of_addressed hids haddressed.1 hknown.1 hatrim.1 hbtrim.1
    hcomparable.1 hafrom hbfrom
  have hdestinations := Endpoint.overlaps_of_addressed hids haddressed.2 hknown.2 hatrim.2
    hbtrim.2 hcomparable.2 hato hbto
  exact Scope.rulesOverlap_iff.2 ⟨ProtocolMatch.overlaps_of_admits haprotocol hbprotocol,
    ⟨f.state, hastate, hbstate⟩, hsources, hdestinations⟩

/-- Rules that overlap have targets that compare. -/
theorem Rule.comparable_of_rulesOverlap {site : Site} {a b : Rule}
    (h : Scope.rulesOverlap site a b = true) : a.comparable b = true := by
  by_contra hnot
  rw [comparable, Bool.and_eq_true, not_and_or, Bool.not_eq_true, Bool.not_eq_true] at hnot
  rw [rulesOverlap_eq_false site hnot] at h
  cases h

/-! ## Places in the order -/

/-- Two elements of a list without repetitions stand in one order only. -/
theorem not_sublist_swap [DecidableEq α] {a b : α} {list : List α} (hnodup : list.Nodup)
    (hab : [a, b].Sublist list) : ¬[b, a].Sublist list := by
  intro hba
  -- A search for either of the two ends at one of them, although the other one comes first.
  have hnotb := find_ne_of_sublist (p := fun x => x == a || x == b) hnodup hab (by simp)
  have hnota := find_ne_of_sublist (p := fun x => x == a || x == b) hnodup hba (by simp)
  have hfound : (list.find? fun x => x == a || x == b).isSome = true := by
    rw [List.find?_isSome]
    exact ⟨a, hab.subset (by simp), by simp⟩
  obtain ⟨x, hx⟩ := Option.isSome_iff_exists.1 hfound
  have heither : x = a ∨ x = b := by simpa using List.find?_some hx
  rcases heither with rfl | rfl
  · exact hnota hx
  · exact hnotb hx

namespace Rule

/-- Without repetitions, the rules that come before others are exactly those tried before them. -/
theorem comesBefore_iff {rules : List Rule} (hnodup : rules.Nodup) {a b : Rule} :
    ComesBefore rules a b ↔ [a, b].Sublist (inOrder rules) := by
  constructor
  · exact ComesBefore.sublist_inOrder
  · intro hab
    have hle : a.index ≤ b.index :=
      List.pairwise_iff_forall_sublist.1 (pairwise_inOrder rules) hab
    have hswap : ¬[b, a].Sublist (inOrder rules) :=
      not_sublist_swap ((inOrder_perm rules).nodup_iff.2 hnodup) hab
    have ha : a ∈ rules := (inOrder_perm rules).mem_iff.1 (hab.subset (by simp))
    have hb : b ∈ rules := (inOrder_perm rules).mem_iff.1 (hab.subset (by simp))
    obtain ⟨i, hi⟩ := List.mem_iff_getElem?.1 ha
    obtain ⟨j, hj⟩ := List.mem_iff_getElem?.1 hb
    refine ⟨i, j, hi, hj, ?_⟩
    by_cases hlt : a.index < b.index
    · exact Or.inl hlt
    · have hindex : a.index = b.index := by omega
      refine Or.inr ⟨hindex, ?_⟩
      rcases Nat.lt_trichotomy i j with hij | hij | hij
      · exact hij
      · rw [hij, hj] at hi
        cases hi
        exact absurd hab hswap
      · have hba : ComesBefore rules b a := ⟨j, i, hj, hi, Or.inr ⟨hindex.symm, hij⟩⟩
        exact absurd hba.sublist_inOrder hswap

end Rule

namespace Audit.Shadowing

variable {site : Site} {allow block : Rule}

/-- The rules of users stand in the order as among all rules. -/
theorem sublist_userOrder_iff (hallow : (allow.isUserRule && allow.isAllow) = true)
    (hblock : (block.isUserRule && block.isBlock) = true) :
    [allow, block].Sublist (userOrder site) ↔ [allow, block].Sublist (Rule.inOrder site.rules) := by
  constructor
  · exact fun h => h.trans (userOrder_sublist site)
  · intro h
    rw [userOrder_eq_filter]
    rw [Bool.and_eq_true] at hallow hblock
    have hfiltered := h.filter fun r => r.isUserRule && (r.isAllow || r.isBlock)
    simpa [hallow, hblock] using hfiltered

/-! ## The exceptions -/

/-- The exceptions by their places in the order. -/
theorem mem_exceptions :
    (allow, block) ∈ exceptions site ↔
      ∃ front back, userOrder site = front ++ allow :: back ∧
        isExceptionCandidate site (deadAllowIds site) allow = true ∧
        back.find? (exempts site allow) = some block := by
  constructor
  · intro h
    obtain ⟨⟨before, r, back⟩, hsplit, hmap⟩ := List.mem_filterMap.1 h
    obtain ⟨front, hlist, _⟩ := mem_splits.1 hsplit
    dsimp only at hmap hlist
    split at hmap
    · next hcandidate =>
      obtain ⟨d, hd, heq⟩ := Option.map_eq_some_iff.1 hmap
      cases heq
      exact ⟨front, back, hlist, hcandidate, hd⟩
    · cases hmap
  · rintro ⟨front, back, hlist, hcandidate, hfind⟩
    refine List.mem_filterMap.2
      ⟨(front, allow, back), mem_splits.2 ⟨front, hlist, by simp⟩, ?_⟩
    simp [hcandidate, hfind]

/-- A rule that may make an exception and does make one is listed, with the first rule perhaps to
which it makes one. -/
theorem exists_mem_exceptions (hplaces : [allow, block].Sublist (userOrder site))
    (hcandidate : isExceptionCandidate site (deadAllowIds site) allow = true)
    (hexempts : exempts site allow block = true) : ∃ d, (allow, d) ∈ exceptions site := by
  obtain ⟨upTo, rest, hlist, hmem, hrest⟩ := List.cons_sublist_iff.1 hplaces
  obtain ⟨front, between, rfl⟩ := List.append_of_mem hmem
  have hlater : block ∈ between ++ rest :=
    List.mem_append_right _ (List.singleton_sublist.1 hrest)
  obtain ⟨d, hd⟩ : ∃ d, (between ++ rest).find? (exempts site allow) = some d := by
    rw [← Option.isSome_iff_exists, List.find?_isSome]
    exact ⟨block, hlater, hexempts⟩
  exact ⟨d, mem_exceptions.2 ⟨front, between ++ rest, by simp [hlist], hcandidate, hd⟩⟩

/-- Whoever makes an exception comes before the rule to which it makes it. -/
theorem sublist_userOrder_of_mem_exceptions (h : (allow, block) ∈ exceptions site) :
    [allow, block].Sublist (userOrder site) := by
  obtain ⟨front, back, hlist, _, hfind⟩ := mem_exceptions.1 h
  have hmem : block ∈ back := List.mem_of_find?_eq_some hfind
  rw [hlist]
  exact (List.Sublist.cons_cons allow (List.singleton_sublist.2 hmem)).trans
    (List.sublist_append_right _ _)

/-- What makes an exception to a rule overlaps it and does not contain it. -/
theorem exempts_iff : exempts site allow block = true ↔
    block.isBlock = true ∧ Scope.rulesOverlap site allow block = true ∧
      Scope.ruleContains site allow block = false := by
  simp [exempts, and_assoc]

/-! ## Flows that show an exception -/

/-- Two flows that show that an allow rule takes some of what a block rule matches, but not all:
both rules match the first, and only the block rule matches the second. -/
structure Carves (site : Site) (allow block : Rule) (taken left : Flow) : Prop where
  taken_addressed : taken.IsAddressedIn site
  taken_known : taken.IsKnownTo site
  allow_taken : allow.appliesTo taken = true
  block_taken : block.appliesTo taken = true
  left_addressed : left.IsAddressedIn site
  allow_left : allow.appliesTo left = false
  block_left : block.appliesTo left = true

/-- Where two flows show an exception, it is seen exactly if the targets of the rules compare. -/
theorem exempts_iff_comparable (hnetworks : (site.networks.map Network.id).Nodup)
    (hblock : block.isBlock = true) (hatrim : allow.HasTrimmedDomains)
    (hbtrim : block.HasTrimmedDomains) {taken left : Flow}
    (hcarves : Carves site allow block taken left)
    (hplaced : allow.infersNetwork block = true → left.IsPlacedIn site) :
    exempts site allow block = true ↔ allow.comparable block = true := by
  rw [exempts_iff]
  constructor
  · rintro ⟨_, hoverlap, _⟩
    exact Rule.comparable_of_rulesOverlap hoverlap
  · intro hcomparable
    have hoverlap : Scope.rulesOverlap site allow block = true :=
      Rule.overlaps_of_appliesTo hnetworks hcarves.taken_addressed hcarves.taken_known hatrim
        hbtrim hcomparable hcarves.allow_taken hcarves.block_taken
    have hnot : Scope.ruleContains site allow block = false := by
      by_contra hcontains
      rw [Bool.not_eq_false] at hcontains
      have happlies := Rule.appliesTo_of_contains_of_addressed hcarves.left_addressed hplaced
        hbtrim hcontains hcarves.block_left
      rw [hcarves.allow_left] at happlies
      cases happlies
    exact ⟨hblock, hoverlap, hnot⟩

/-! ## Findings -/

theorem ruleId_exception (site : Site) (allow block : Rule) :
    (exception site allow block).ruleId = some allow.id := by
  simp only [exception]
  split <;> rfl

/-- An allow rule is reported, as dead or as an exception. -/
def ReportsAllow (site : Site) (r : Rule) : Prop :=
  ∃ finding ∈ findings site, finding.ruleId = some r.id ∧
    (finding.kind = .denyShadowsAllow ∨ finding.kind = .allowExceptionPattern)

/-- Allow rules that are dead are reported. -/
theorem reportsAllow_of_mem_deadAllowIds (h : allow.id ∈ deadAllowIds site) :
    ReportsAllow site allow := by
  obtain ⟨⟨r, e⟩, hmem, hid⟩ := List.mem_filterMap.1 h
  dsimp only at hid
  split at hid
  · cases hid
  · next hr =>
    refine ⟨dead r e, List.mem_append_left _ (List.mem_map_of_mem hmem), ?_, Or.inl ?_⟩
    · rw [ruleId_dead, hid]
    · rw [kind_dead, if_neg hr]

/-- So are those that make an exception. -/
theorem reportsAllow_of_mem_exceptions (h : (allow, block) ∈ exceptions site) :
    ReportsAllow site allow :=
  ⟨exception site allow block, List.mem_append_right _ (List.mem_map_of_mem h),
    ruleId_exception site allow block, Or.inr (kind_exception site allow block)⟩

/-- An allow rule that makes an exception is reported, or it is a carve-out. -/
theorem reportsAllow_of_exempts (hallow : allow.isAllow = true)
    (hplaces : [allow, block].Sublist (userOrder site))
    (hexempts : exempts site allow block = true) :
    ManagementAccess.isCarveOut site allow = true ∨ ReportsAllow site allow := by
  by_cases hcarveOut : ManagementAccess.isCarveOut site allow = true
  · exact Or.inl hcarveOut
  · refine Or.inr ?_
    by_cases hdead : allow.id ∈ deadAllowIds site
    · exact reportsAllow_of_mem_deadAllowIds hdead
    · have hcandidate : isExceptionCandidate site (deadAllowIds site) allow = true := by
        simp [isExceptionCandidate, hallow, hdead, hcarveOut]
      obtain ⟨d, hd⟩ := exists_mem_exceptions hplaces hcandidate hexempts
      exact reportsAllow_of_mem_exceptions hd

/-- A finding about an exception names a rule that makes one. -/
theorem exists_mem_exceptions_of_mem_findings {finding : Finding} (h : finding ∈ findings site)
    (hkind : finding.kind = .allowExceptionPattern) :
    ∃ allow block, (allow, block) ∈ exceptions site ∧ finding.ruleId = some allow.id := by
  rw [findings, List.mem_append, List.mem_map, List.mem_map] at h
  rcases h with ⟨⟨r, e⟩, _, rfl⟩ | ⟨⟨allow, block⟩, hmem, rfl⟩
  · rw [kind_dead] at hkind
    split at hkind <;> cases hkind
  · exact ⟨allow, block, hmem, ruleId_exception site allow block⟩

/-- **What an allow rule takes from a later block rule is reported, if their targets compare.**
At a site where ids of rules and of networks are distinct, let an allow rule of a user come before
a block rule of a user, by index and place, let both be as they are read from a controller, and
let two flows show that the first takes some of what the second matches, but not all.  Where a
network is inferred from addresses, let the flow that is left agree with all subnets.  If targets
compare on both sides, then the allow rule is reported, unless it is a carve-out.  And no
exception is reported without a later block rule whose targets compare. -/
theorem carved_block_reported (site : Site) (hrules : (site.rules.map Rule.id).Nodup)
    (hnetworks : (site.networks.map Network.id).Nodup) {allow : Rule} (hmem : allow ∈ site.rules)
    (hallow : (allow.isUserRule && allow.isAllow) = true)
    (hread : allow.HasTrimmedDomains ∨ ∃ groups doc, allow ∈ Export.rules groups doc) :
    (∀ block, Rule.ComesBefore site.rules allow block →
      (block.isUserRule && block.isBlock) = true →
      (block.HasTrimmedDomains ∨ ∃ groups doc, block ∈ Export.rules groups doc) →
      ∀ taken left, Carves site allow block taken left →
        (allow.infersNetwork block = true → left.IsPlacedIn site) →
        allow.comparable block = true →
        ManagementAccess.isCarveOut site allow = true ∨ ReportsAllow site allow) ∧
    ∀ finding ∈ findings site, finding.kind = .allowExceptionPattern →
      finding.ruleId = some allow.id →
      ∃ block, Rule.ComesBefore site.rules allow block ∧
        (block.isUserRule && block.isBlock) = true ∧ allow.comparable block = true ∧
        Scope.ruleContains site allow block = false := by
  constructor
  · intro block hbefore hblock hbread taken left hcarves hplaced hcomparable
    have hplaces : [allow, block].Sublist (userOrder site) :=
      (sublist_userOrder_iff hallow hblock).2 hbefore.sublist_inOrder
    rw [Bool.and_eq_true] at hallow hblock
    have hexempts : exempts site allow block = true :=
      (exempts_iff_comparable hnetworks hblock.2 (Export.hasTrimmedDomains_of_read hread)
        (Export.hasTrimmedDomains_of_read hbread) hcarves hplaced).2 hcomparable
    exact reportsAllow_of_exempts hallow.2 hplaces hexempts
  · intro finding hfinding hkind hnames
    obtain ⟨r, block, hexception, hid⟩ := exists_mem_exceptions_of_mem_findings hfinding hkind
    have hplaces := sublist_userOrder_of_mem_exceptions hexception
    have hordered : [r, block].Sublist (Rule.inOrder site.rules) :=
      hplaces.trans (userOrder_sublist site)
    have hr : r ∈ site.rules :=
      (Rule.inOrder_perm site.rules).mem_iff.1 (hordered.subset (by simp))
    have hsame : r.id = allow.id := Option.some.inj (hid.symm.trans hnames)
    have hra : r = allow := Rule.eq_of_id_eq hrules hr hmem hsame
    subst hra
    obtain ⟨_, _, _, _, hfind⟩ := mem_exceptions.1 hexception
    obtain ⟨hisBlock, hoverlap, hnot⟩ := exempts_iff.1 (List.find?_some hfind)
    have huser : block.isUserRule = true :=
      (isUserRule_of_mem_userOrder (hplaces.subset (by simp))).1
    have hbefore : Rule.ComesBefore site.rules r block :=
      (Rule.comesBefore_iff (List.Nodup.of_map Rule.id hrules)).2 hordered
    have hblock : (block.isUserRule && block.isBlock) = true := by simp [huser, hisBlock]
    exact ⟨block, hbefore, hblock, Rule.comparable_of_rulesOverlap hoverlap, hnot⟩

/-- Keeps cameras from everything. -/
def blockCameras : Rule :=
  { id := "cameras", name := "Cameras", action := .block, enabled := true, predefined := false
    index := 2, protocol := ⟨.all, false⟩, stateType := .all, states := .empty
    source := ⟨.network ["cams"] false, none, none, false⟩, destination := .everything
    ruleset := none, hitCount := none }

/-- A camera that opens a connection to some other server. -/
def cameraDetour : Flow :=
  { cameraReport with
    destination := ⟨none, "443", .ofBits .v4 0xCB007108, none, "", "example.org", 0, 0⟩ }

/-- The uplink takes reports of the cameras from the rule that blocks them, and leaves detours.
So it is reported. -/
theorem carved_block_reported_uplink :
    let site := Site.ofRules [allowUplink, blockCameras] [cameras]
    Carves site allowUplink blockCameras cameraReport cameraDetour ∧
      ManagementAccess.isCarveOut site allowUplink = false ∧ ReportsAllow site allowUplink := by
  intro site
  have hcarves : Carves site allowUplink blockCameras cameraReport cameraDetour :=
    ⟨by decide, by decide, by decide, by decide, by decide, by decide, by decide⟩
  have hcarveOut : ManagementAccess.isCarveOut site allowUplink = false := by decide
  have hatrim : allowUplink.HasTrimmedDomains := by decide
  have hbtrim : blockCameras.HasTrimmedDomains := by decide
  have hbefore : Rule.ComesBefore site.rules allowUplink blockCameras :=
    ⟨0, 1, rfl, rfl, by decide⟩
  have hreported := (carved_block_reported site (by decide) (by decide) (by decide) (by decide)
    (Or.inl hatrim)).1 blockCameras hbefore (by decide) (Or.inl hbtrim) cameraReport cameraDetour
    hcarves (by decide) (by decide)
  refine ⟨hcarves, hcarveOut, hreported.resolve_left ?_⟩
  rw [hcarveOut]
  decide

/-- Lets one camera through, by its MAC address. -/
def allowOneCamera : Rule :=
  { id := "one", name := "One camera", action := .allow, enabled := true, predefined := false
    index := 1, protocol := ⟨.all, false⟩, stateType := .all, states := .empty
    source := ⟨.client ["02:00:00:00:00:05"], none, none, false⟩, destination := .everything
    ruleset := none, hitCount := none }

/-- Keeps all networks but the recorders' from everything. -/
def blockOthers : Rule :=
  { blockCameras with id := "others", name := "Others"
                      source := ⟨.network ["nvr"] true, none, none, false⟩ }

/-- The report of another camera. -/
def otherReport : Flow :=
  { cameraReport with
    source := ⟨none, "50000", .ofBits .v4 0x0A1E0006, some "cams", "02:00:00:00:00:06", "", 0, 0⟩ }

/-- One camera is let through and the other one is not, but this is not reported: a MAC address
and a list of networks do not compare, not even where the list is inverted. -/
theorem carved_client_unreported :
    let site := Site.ofRules [allowOneCamera, blockOthers] [cameras, Site.recorders]
    (site.rules.map Rule.id).Nodup ∧ (site.networks.map Network.id).Nodup ∧
      (allowOneCamera.isUserRule && allowOneCamera.isAllow) = true ∧
      (blockOthers.isUserRule && blockOthers.isBlock) = true ∧
      Rule.ComesBefore site.rules allowOneCamera blockOthers ∧
      Carves site allowOneCamera blockOthers cameraReport otherReport ∧
      cameraReport.IsPlacedIn site ∧ otherReport.IsPlacedIn site ∧
      ManagementAccess.isCarveOut site allowOneCamera = false ∧
      ¬ReportsAllow site allowOneCamera := by
  intro site
  have hcarves : Carves site allowOneCamera blockOthers cameraReport otherReport :=
    ⟨by decide, by decide, by decide, by decide, by decide, by decide, by decide⟩
  have hbefore : Rule.ComesBefore site.rules allowOneCamera blockOthers :=
    ⟨0, 1, rfl, rfl, by decide⟩
  have horder : userOrder site = [allowOneCamera, blockOthers] :=
    Rule.inOrder_of_pairwise (by decide)
  have hfindings : findings site = [] := by
    simp only [findings, exceptions, deadAllowIds, deadRules, horder]
    rfl
  have hunreported : ¬ReportsAllow site allowOneCamera := by
    rintro ⟨finding, hfinding, _⟩
    rw [hfindings] at hfinding
    cases hfinding
  exact ⟨by decide, by decide, by decide, by decide, hbefore, hcarves, by decide, by decide,
    by decide, hunreported⟩

end Audit.Shadowing

end SiteAudit

import SiteAudit.Proofs.NetworkOrder

/-!
# Targets of port forwards

A forward to an address in a sensitive network lets everybody outside reach a host
that should be kept apart even from the rest of the site.  The check asks for the
network of the address, and then whether this network is sensitive.  But an address
can lie in several subnets, if one is nested in another, and the network of an
address is the first one listed that has it.  A wide network that is listed before a
sensitive one inside it takes the address over, and nothing is said.

Where no network does that, the check says what it should.  It never says anything
about a forward to an address in no sensitive network, and which networks are in the
way is told exactly here.

## Main results

* `Site.networkOf_eq_some_iff` — the network of an address is the first that has it.
* `mem_findings_iff` — the findings about forwards into sensitive networks.
* `isSome_ofTarget_iff` — when there is one for a forward.
* `exists_order_hidden_iff` — when there is an order of the networks that hides it.
* `sensitive_forward_reported_iff` — all of it together.
* `recorder_behind_household` — a forward to a recorder that is not reported.
-/

namespace SiteAudit

/-! ## Networks of addresses -/

namespace Site

variable {site : Site} {a : Net.Address} {n : Network}

/-- The first network of a site, in the order of the list, that has an address. -/
def IsFirstWith (site : Site) (a : Net.Address) (n : Network) : Prop :=
  n.contains a = true ∧
    ∃ front back, site.networks = front ++ n :: back ∧ ∀ m ∈ front, m.contains a = false

/-- The network of an address is the first that has it. -/
theorem networkOf_eq_some_iff : site.networkOf? a = some n ↔ site.IsFirstWith a n := by
  rw [networkOf?, List.find?_eq_some_iff_append, IsFirstWith]
  simp only [Bool.not_eq_true']

theorem IsFirstWith.mem (h : site.IsFirstWith a n) : n ∈ site.networks := by
  obtain ⟨_, front, back, hnetworks, _⟩ := h
  rw [hnetworks]
  exact List.mem_append_right front List.mem_cons_self

theorem IsFirstWith.unique {m : Network} (h : site.IsFirstWith a n) (h' : site.IsFirstWith a m) :
    n = m :=
  Option.some.inj ((networkOf_eq_some_iff.2 h).symm.trans (networkOf_eq_some_iff.2 h'))

/-- An address in some network has a first network. -/
theorem exists_isFirstWith (hn : n ∈ site.networks) (ha : n.contains a = true) :
    ∃ m, site.IsFirstWith a m := by
  cases hfirst : site.networkOf? a with
  | some m => exact ⟨m, networkOf_eq_some_iff.1 hfirst⟩
  | none => exact absurd ha (List.find?_eq_none.1 hfirst n hn)

/-- Any network that has an address can be listed first. -/
theorem exists_order_isFirstWith (hn : n ∈ site.networks) (ha : n.contains a = true) :
    ∃ networks, networks.Perm site.networks ∧ (site.withNetworks networks).IsFirstWith a n := by
  obtain ⟨front, back, hnetworks⟩ := List.append_of_mem hn
  refine ⟨n :: (front ++ back), ?_, ha, [], front ++ back, rfl, by simp⟩
  rw [hnetworks]
  exact List.perm_middle.symm

end Site

namespace Audit.Exposure

variable {site : Site} {f : PortForward} {id : String} {g : Finding}

/-! ## Forwards into sensitive networks -/

/-- The target of a forward lies in the subnet of a sensitive network. -/
def EntersSensitive (site : Site) (f : PortForward) : Prop :=
  ∃ target ∈ f.forwardIp, ∃ n ∈ site.networks,
    n.purpose.isSensitive = true ∧ n.contains target = true

/-- The first network that has the target of a forward is not a sensitive one. -/
def IsHidden (site : Site) (f : PortForward) : Prop :=
  ∃ target ∈ f.forwardIp, ∃ n, site.IsFirstWith target n ∧ n.purpose.isSensitive = false

/-- The check says that a forward with an id opens a sensitive network. -/
def ReportsForward (site : Site) (id : String) : Prop :=
  ∃ g ∈ findings site, g.kind = .portForwardToIsolated ∧
    g.details.entries = [("port_forward_id", id)]

theorem ofTarget_eq_some_iff :
    ofTarget site f = some g ↔ ∃ target ∈ f.forwardIp, ∃ n, site.IsFirstWith target n ∧
      n.purpose.isSensitive = true ∧ intoSensitive f target n = g := by
  simp only [ofTarget, Option.bind_eq_bind, Option.bind_eq_some_iff, Option.filter_eq_some_iff,
    Option.some.injEq, Option.mem_def, Site.networkOf_eq_some_iff, and_assoc]

theorem kind_ne_of_ofPorts (h : ofPorts f = some g) : g.kind ≠ .portForwardToIsolated := by
  simp only [ofPorts] at h
  split at h
  · cases h
  · cases h
    exact FindingKind.noConfusion

theorem kind_ne_of_ofUpnp (h : g ∈ ofUpnp site) : g.kind ≠ .portForwardToIsolated := by
  rw [ofUpnp] at h
  split at h
  · rw [List.mem_singleton.1 h]
    exact FindingKind.noConfusion
  · cases h

/-- Findings about sensitive networks that are opened come from forwards in force, and from nothing
else. -/
theorem mem_findings_iff (hkind : g.kind = .portForwardToIsolated) :
    g ∈ findings site ↔ ∃ f ∈ site.portForwards, f.enabled = true ∧ ofTarget site f = some g := by
  rw [findings, List.mem_append, List.mem_flatMap]
  constructor
  · rintro (hupnp | ⟨f, hf, hg⟩)
    · exact absurd hkind (kind_ne_of_ofUpnp hupnp)
    · obtain ⟨hmem, henabled⟩ := List.mem_filter.1 hf
      rw [ofForward, List.mem_append, Option.mem_toList, Option.mem_toList] at hg
      rcases hg with htarget | hports
      · exact ⟨f, hmem, henabled, htarget⟩
      · exact absurd hkind (kind_ne_of_ofPorts hports)
  · rintro ⟨f, hmem, henabled, htarget⟩
    refine Or.inr ⟨f, List.mem_filter.2 ⟨hmem, henabled⟩, ?_⟩
    rw [ofForward, List.mem_append, Option.mem_toList]
    exact Or.inl htarget

/-- There is a finding for a forward into a sensitive network, unless another network hides it. -/
theorem isSome_ofTarget_iff :
    (ofTarget site f).isSome = true ↔ EntersSensitive site f ∧ ¬IsHidden site f := by
  rw [Option.isSome_iff_exists]
  constructor
  · rintro ⟨g, hg⟩
    obtain ⟨target, htarget, n, hfirst, hsensitive, _⟩ := ofTarget_eq_some_iff.1 hg
    refine ⟨⟨target, htarget, n, hfirst.mem, hsensitive, hfirst.1⟩, ?_⟩
    rintro ⟨other, hother, m, hfirst', hplain⟩
    obtain rfl : target = other := Option.mem_unique htarget hother
    rw [hfirst.unique hfirst', hplain] at hsensitive
    cases hsensitive
  · rintro ⟨⟨target, htarget, n, hn, _, ha⟩, hshown⟩
    obtain ⟨m, hfirst⟩ := Site.exists_isFirstWith hn ha
    have hsensitive : m.purpose.isSensitive = true := by
      rw [← Bool.not_eq_false]
      exact fun hplain => hshown ⟨target, htarget, m, hfirst, hplain⟩
    exact ⟨_, ofTarget_eq_some_iff.2 ⟨target, htarget, m, hfirst, hsensitive, rfl⟩⟩

theorem reportsForward_iff :
    ReportsForward site id ↔ ∃ f ∈ site.portForwards, f.enabled = true ∧ f.id = id ∧
      EntersSensitive site f ∧ ¬IsHidden site f := by
  constructor
  · rintro ⟨g, hg, hkind, hid⟩
    obtain ⟨f, hf, henabled, htarget⟩ := (mem_findings_iff hkind).1 hg
    obtain ⟨target, _, n, _, _, rfl⟩ := ofTarget_eq_some_iff.1 htarget
    have hentries : [("port_forward_id", f.id)] = [("port_forward_id", id)] := hid
    have hsame : f.id = id := by simpa using hentries
    exact ⟨f, hf, henabled, hsame, isSome_ofTarget_iff.1 (by rw [htarget]; rfl)⟩
  · rintro ⟨f, hf, henabled, rfl, hshown⟩
    obtain ⟨g, htarget⟩ := Option.isSome_iff_exists.1 (isSome_ofTarget_iff.2 hshown)
    obtain ⟨target, _, n, _, _, rfl⟩ := ofTarget_eq_some_iff.1 htarget
    exact ⟨_, (mem_findings_iff rfl).2 ⟨f, hf, henabled, htarget⟩, rfl, rfl⟩

/-! ## Networks in another order -/

/-- A forward is hidden in some order of the networks exactly if its target lies in a network that
is not sensitive. -/
theorem exists_order_hidden_iff :
    (∃ networks, networks.Perm site.networks ∧ IsHidden (site.withNetworks networks) f) ↔
      ∃ target ∈ f.forwardIp, ∃ n ∈ site.networks,
        n.purpose.isSensitive = false ∧ n.contains target = true := by
  constructor
  · rintro ⟨networks, hperm, target, htarget, n, hfirst, hplain⟩
    have hn : n ∈ site.networks := hperm.mem_iff.1 hfirst.mem
    exact ⟨target, htarget, n, hn, hplain, hfirst.1⟩
  · rintro ⟨target, htarget, n, hn, hplain, ha⟩
    obtain ⟨networks, hperm, hfirst⟩ := Site.exists_order_isFirstWith hn ha
    exact ⟨networks, hperm, target, htarget, n, hfirst, hplain⟩

/-- There is an order of the networks that does not hide a forward into a sensitive one. -/
theorem exists_order_shown (h : EntersSensitive site f) :
    ∃ networks, networks.Perm site.networks ∧ ¬IsHidden (site.withNetworks networks) f := by
  obtain ⟨target, htarget, n, hn, hsensitive, ha⟩ := h
  obtain ⟨networks, hperm, hfirst⟩ := Site.exists_order_isFirstWith hn ha
  refine ⟨networks, hperm, ?_⟩
  rintro ⟨other, hother, m, hfirst', hplain⟩
  obtain rfl : target = other := Option.mem_unique htarget hother
  rw [hfirst.unique hfirst', hplain] at hsensitive
  cases hsensitive

/-! ## Summary -/

/-- **Which forwards into sensitive networks are reported.**  At every site the check reports an id
exactly if a forward in force has this id, its target lies in the subnet of a sensitive network, and
the first network that has the target is a sensitive one.  So nothing is reported about a forward
whose target lies in no sensitive network, and of the others those are missed that a network listed
earlier hides.  A forward is reported in every order of the networks exactly if all networks that
have its target are sensitive, and in some order in any case. -/
theorem sensitive_forward_reported_iff (site : Site) :
    (∀ id, ReportsForward site id ↔ ∃ f ∈ site.portForwards, f.enabled = true ∧ f.id = id ∧
        EntersSensitive site f ∧ ¬IsHidden site f) ∧
      ∀ f, EntersSensitive site f →
        ((∀ networks, networks.Perm site.networks → ¬IsHidden (site.withNetworks networks) f) ↔
          ∀ target ∈ f.forwardIp, ∀ n ∈ site.networks, n.contains target = true →
            n.purpose.isSensitive = true) ∧
        ∃ networks, networks.Perm site.networks ∧ ¬IsHidden (site.withNetworks networks) f := by
  refine ⟨fun id => reportsForward_iff, fun f henters => ⟨⟨?_, ?_⟩, exists_order_shown henters⟩⟩
  · intro hshown target htarget n hn ha
    rw [← Bool.not_eq_false]
    intro hplain
    obtain ⟨networks, hperm, hhidden⟩ :=
      exists_order_hidden_iff.2 ⟨target, htarget, n, hn, hplain, ha⟩
    exact hshown networks hperm hhidden
  · intro hsensitive networks hperm hhidden
    obtain ⟨target, htarget, n, hn, hplain, ha⟩ :=
      exists_order_hidden_iff.1 ⟨networks, hperm, hhidden⟩
    rw [hsensitive target htarget n hn ha] at hplain
    cases hplain

end Audit.Exposure

/-- A home network with a wide subnet, in which that of the cameras is nested. -/
def wideHousehold : Network :=
  { household with id := "wide", name := "Home", subnet := some (.ofBits .v4 0x0A000000 8) }

/-- Lets one company outside look at a recorder among the cameras. -/
def toRecorder : PortForward :=
  { id := "nvr", name := "Recorder", enabled := true, forwardIp := some (.ofBits .v4 0x0A1E000A)
    forwardPort := none, destinationPort := some "7443", protocol := "tcp"
    source := some "203.0.113.0/24" }

/-- A site with one forward and nothing else but networks. -/
def Site.ofForward (f : PortForward) (networks : List Network) : Site :=
  { Site.ofRules [] networks with portForwards := [f] }

namespace Audit.Exposure

/-- With the cameras listed first the forward is reported, but not in every order. -/
theorem sensitive_forward_reported_iff_recorder :
    let site := Site.ofForward toRecorder [cameras, wideHousehold]
    EntersSensitive site toRecorder ∧ ReportsForward site "nvr" ∧
      ¬∀ networks, networks.Perm site.networks →
        ¬IsHidden (site.withNetworks networks) toRecorder := by
  intro site
  obtain ⟨hreports, horders⟩ := sensitive_forward_reported_iff site
  have henters : EntersSensitive site toRecorder :=
    ⟨_, rfl, cameras, by decide, rfl, by decide⟩
  have hfirst : site.IsFirstWith (.ofBits .v4 0x0A1E000A) cameras :=
    ⟨by decide, [], [wideHousehold], rfl, by simp⟩
  have hshown : ¬IsHidden site toRecorder := by
    rintro ⟨target, htarget, n, hn, hplain⟩
    cases htarget
    rw [← hfirst.unique hn] at hplain
    cases hplain
  refine ⟨henters, (hreports "nvr").2 ⟨toRecorder, by decide, rfl, rfl, henters, hshown⟩, ?_⟩
  rw [(horders toRecorder henters).1]
  intro hall
  exact absurd (hall _ rfl wideHousehold (by decide) (by decide)) (by decide)

/-- **A nested network is overlooked.**  With the wide network listed first nothing is said about
the forward, although its target is among the cameras. -/
theorem recorder_behind_household :
    let site := Site.ofForward toRecorder [wideHousehold, cameras]
    toRecorder ∈ site.portForwards ∧ toRecorder.enabled = true ∧
      EntersSensitive site toRecorder ∧ findings site = [] ∧
      ¬ReportsForward site toRecorder.id := by
  intro site
  have hnothing : findings site = [] := by decide
  refine ⟨by decide, rfl, ⟨_, rfl, cameras, by decide, rfl, by decide⟩, hnothing, ?_⟩
  rintro ⟨g, hg, _⟩
  rw [hnothing] at hg
  cases hg

end Audit.Exposure

end SiteAudit

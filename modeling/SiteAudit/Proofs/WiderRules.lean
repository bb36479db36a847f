import SiteAudit.Proofs.AddedRules
import SiteAudit.Proofs.DeadRules

/-!
# Wider rules and their breadth

The check for rules that allow too much looks at a rule by its form: which sides are
any, which are pinned down, whether a port or a protocol is named.  Containment is
about what two rules match.  A maintainer who widens a rule expects that the finding
about it does not become milder, and this module says that it does not.

The two notions meet in what containment keeps.  Only any contains any, only the
selector of all protocols contains it, and a side that names a port or a zone contains
none that does not.  In the other direction, a side that is pinned down contains only
sides that are pinned down too, since networks, addresses and clients contain nothing
but each other.

## Main results

* `Endpoint.isOpen_of_contains`, `Endpoint.isPinned_of_contains` — what one side says
  about another that it contains.
* `Audit.Breadth.isWideOpen_of_contains`, `Audit.Breadth.isBroad_of_contains` — breadth
  is kept by rules that contain each other.
* `Audit.Breadth.reports_iff_of_distinct` — what the check says about a rule.
* `Audit.Breadth.wider_rule_reported` — the finding about a wider rule.
-/

namespace SiteAudit

/-! ## Targets and sides -/

/-- Whether a target pins a side down: by networks, addresses or clients. -/
def Target.narrows : Target → Bool
  | .network .. => true
  | .ip .. => true
  | .client _ => true
  | _ => false

theorem Target.eq_any_of_contains {site : Site} {outer : Target}
    (h : Scope.targetContains site outer .any = true) : outer = .any := by
  cases outer <;> simp [Scope.targetContains] at h ⊢

/-- Networks, addresses and clients contain nothing but each other. -/
theorem Target.narrows_of_contains {site : Site} {outer inner : Target}
    (h : Scope.targetContains site outer inner = true) (houter : outer.narrows = true) :
    inner.narrows = true := by
  -- One case for each pair of kinds that compare, in the order of the definition.
  unfold Scope.targetContains at h
  split at h
  case h_1 => cases houter
  case h_2 => cases h
  case h_3 | h_4 | h_5 | h_6 | h_7 => rfl
  case h_8 | h_9 | h_10 => cases houter
  case h_11 => cases h

namespace Endpoint

variable {site : Site} {outer inner : Endpoint}

theorem isPinned_eq (e : Endpoint) : e.isPinned = (e.port.isSome || e.target.narrows) := by
  unfold isPinned
  cases e.target <;> rfl

theorem isAny_iff {e : Endpoint} : e.isAny = true ↔ e.target = .any := by
  simp [isAny]

theorem port_eq_none_of_contains (h : Scope.endpointContains site outer inner = true)
    (hinner : inner.port = none) : outer.port = none := by
  obtain ⟨_, hports, _⟩ := Scope.endpointContains_iff.1 h
  rw [Scope.portsContain, hinner] at hports
  cases houter : outer.port with
  | none => rfl
  | some spec => simp [houter] at hports

theorem isAny_of_contains (h : Scope.endpointContains site outer inner = true)
    (hinner : inner.isAny = true) : outer.isAny = true := by
  obtain ⟨_, _, htargets⟩ := Scope.endpointContains_iff.1 h
  rw [isAny_iff.1 hinner] at htargets
  exact isAny_iff.2 (Target.eq_any_of_contains htargets)

/-- What contains a side that selects everything selects everything. -/
theorem isOpen_of_contains (h : Scope.endpointContains site outer inner = true)
    (hinner : inner.isOpen = true) : outer.isOpen = true := by
  rw [isOpen, Bool.and_eq_true, Option.isNone_iff_eq_none] at hinner ⊢
  exact ⟨isAny_of_contains h hinner.1, port_eq_none_of_contains h hinner.2⟩

/-- A side that is pinned down contains only sides that are. -/
theorem isPinned_of_contains (h : Scope.endpointContains site outer inner = true)
    (houter : outer.isPinned = true) : inner.isPinned = true := by
  rw [isPinned_eq, Bool.or_eq_true] at houter ⊢
  rcases houter with hport | hnarrow
  · left
    cases hinner : inner.port with
    | some spec => rfl
    | none =>
        rw [port_eq_none_of_contains h hinner] at hport
        cases hport
  · right
    obtain ⟨_, _, htargets⟩ := Scope.endpointContains_iff.1 h
    exact Target.narrows_of_contains htargets hnarrow

theorem isExternal_of_contains (h : Scope.endpointContains site outer inner = true)
    (houter : site.isExternal outer = true) : site.isExternal inner = true := by
  obtain ⟨hzones, _, _⟩ := Scope.endpointContains_iff.1 h
  rw [Scope.zonesContain] at hzones
  rw [Site.isExternal] at houter ⊢
  cases hzone : outer.zone with
  | none => simp [hzone, ZoneTable.isExternal] at houter
  | some zone =>
      have hsame : inner.zone = some zone := by simpa [hzone] using hzones
      rw [hsame, ← hzone]
      exact houter

end Endpoint

namespace Audit.Breadth

variable {site : Site} {outer inner r : Rule}

/-! ## Rules -/

theorem isWideOpen_of_contains (h : Scope.ruleContains site outer inner = true)
    (hinner : isWideOpen site inner = true) : isWideOpen site outer = true := by
  obtain ⟨hprotocol, _, hsource, hdestination⟩ := Scope.ruleContains_iff.1 h
  simp only [isWideOpen, Bool.and_eq_true, Bool.not_eq_true'] at hinner ⊢
  obtain ⟨⟨⟨hfrom, hto⟩, heverything⟩, hinside⟩ := hinner
  refine ⟨⟨⟨Endpoint.isOpen_of_contains hsource hfrom,
    Endpoint.isOpen_of_contains hdestination hto⟩, ?_⟩, ?_⟩
  · rw [ProtocolMatch.isEverything_iff] at heverything ⊢
    exact fun t => ProtocolMatch.admits_of_contains hprotocol (heverything t)
  · rw [Bool.eq_false_iff] at hinside ⊢
    exact fun hexternal => hinside (Endpoint.isExternal_of_contains hdestination hexternal)

theorem isBroad_iff :
    isBroad r = true ↔
      (r.source.isAny = true ∧ r.destination.isPinned = false) ∨
        (r.destination.isAny = true ∧ r.source.isPinned = false) := by
  simp [isBroad]

theorem isBroad_of_contains (h : Scope.ruleContains site outer inner = true)
    (hinner : isBroad inner = true) : isBroad outer = true := by
  obtain ⟨_, _, hsource, hdestination⟩ := Scope.ruleContains_iff.1 h
  rw [isBroad_iff] at hinner ⊢
  rcases hinner with ⟨hany, hloose⟩ | ⟨hany, hloose⟩
  · refine Or.inl ⟨Endpoint.isAny_of_contains hsource hany, ?_⟩
    rw [Bool.eq_false_iff] at hloose ⊢
    exact fun hpinned => hloose (Endpoint.isPinned_of_contains hdestination hpinned)
  · refine Or.inr ⟨Endpoint.isAny_of_contains hdestination hany, ?_⟩
    rw [Bool.eq_false_iff] at hloose ⊢
    exact fun hpinned => hloose (Endpoint.isPinned_of_contains hsource hpinned)

theorem breadth_eq_broad_iff :
    breadth? site r = some .broad ↔
      r.isUserRule = true ∧ r.allowsNew = true ∧ isWideOpen site r = false ∧ isBroad r = true := by
  rw [breadth?]
  cases r.isUserRule <;> cases r.allowsNew <;> cases isWideOpen site r <;>
    cases isBroad r <;> simp

/-! ## What the check says -/

/-- The check reports a rule: the finding about the rule is of this kind, and is among those of the
check. -/
def Reports (site : Site) (r : Rule) (kind : FindingKind) : Prop :=
  ∃ f ∈ findings site, report? site r = some f ∧ f.kind = kind

/-- The kind of the finding about a rule. -/
def Extent.kind : Extent → FindingKind
  | .wideOpen => .permissiveRule
  | .broad => .broadRule

theorem report_eq_some_iff {f : Finding} :
    report? site r = some f ↔ ∃ extent, breadth? site r = some extent ∧
      ((finding r extent).withRule r.id).withDetail "protocol" r.protocol.summary = f := by
  rw [report?, Option.map_eq_some_iff]

theorem kind_of_report {extent : Extent} {f : Finding} (hextent : breadth? site r = some extent)
    (h : report? site r = some f) : f.kind = extent.kind := by
  obtain ⟨_, hsame, rfl⟩ := report_eq_some_iff.1 h
  rw [hextent] at hsame
  cases hsame
  cases extent <;> rfl

theorem ruleId_of_report {f : Finding} (h : report? site r = some f) : f.ruleId = some r.id := by
  obtain ⟨_, _, rfl⟩ := report_eq_some_iff.1 h
  rfl

theorem mem_findings_iff {f : Finding} :
    f ∈ findings site ↔ ∃ r ∈ site.rules, report? site r = some f :=
  List.mem_filterMap

/-- A rule of the site is reported by how much too much it allows. -/
theorem reports_iff (hr : r ∈ site.rules) {kind : FindingKind} :
    Reports site r kind ↔ ∃ extent, breadth? site r = some extent ∧ extent.kind = kind := by
  constructor
  · rintro ⟨f, _, hreport, rfl⟩
    obtain ⟨extent, hextent, _⟩ := report_eq_some_iff.1 hreport
    exact ⟨extent, hextent, (kind_of_report hextent hreport).symm⟩
  · rintro ⟨extent, hextent, rfl⟩
    have hreport : report? site r = some _ := report_eq_some_iff.2 ⟨extent, hextent, rfl⟩
    exact ⟨_, mem_findings_iff.2 ⟨r, hr, hreport⟩, hreport, kind_of_report hextent hreport⟩

theorem reports_permissive_iff (hr : r ∈ site.rules) :
    Reports site r .permissiveRule ↔ breadth? site r = some .wideOpen := by
  rw [reports_iff hr]
  constructor
  · rintro ⟨_ | _, hextent, hkind⟩
    · exact hextent
    · cases hkind
  · exact fun h => ⟨_, h, rfl⟩

theorem reports_broad_iff (hr : r ∈ site.rules) :
    Reports site r .broadRule ↔ breadth? site r = some .broad := by
  rw [reports_iff hr]
  constructor
  · rintro ⟨_ | _, hextent, hkind⟩
    · cases hkind
    · exact hextent
  · exact fun h => ⟨_, h, rfl⟩

/-- Where ids are distinct, a rule is reported exactly if a finding has its id. -/
theorem reports_iff_of_distinct (hids : (site.rules.map Rule.id).Nodup) (hr : r ∈ site.rules)
    {kind : FindingKind} :
    Reports site r kind ↔ ∃ f ∈ findings site, f.ruleId = some r.id ∧ f.kind = kind := by
  constructor
  · rintro ⟨f, hf, hreport, hkind⟩
    exact ⟨f, hf, ruleId_of_report hreport, hkind⟩
  · rintro ⟨f, hf, hid, hkind⟩
    obtain ⟨s, hs, hreport⟩ := mem_findings_iff.1 hf
    have hsame : s.id = r.id := Option.some.inj ((ruleId_of_report hreport).symm.trans hid)
    rw [Rule.eq_of_id_eq hids hs hr hsame] at hreport
    exact ⟨f, hf, hreport, hkind⟩

/-- **A wider rule is not reported more mildly.**  At every site let a rule of a user that allows
fresh connections contain another one.  If the other one is reported as wide open, so is the rule;
if it is reported as broad, the rule is reported as broad or as wide open.  What is reported about a
rule is the finding with its id, where ids are distinct. -/
theorem wider_rule_reported (site : Site) {outer inner : Rule} (houter : outer ∈ site.rules)
    (hinner : inner ∈ site.rules) (huser : outer.isUserRule = true) (hnew : outer.allowsNew = true)
    (h : Scope.ruleContains site outer inner = true) :
    (Reports site inner .permissiveRule → Reports site outer .permissiveRule) ∧
      (Reports site inner .broadRule →
        Reports site outer .broadRule ∨ Reports site outer .permissiveRule) ∧
      ((site.rules.map Rule.id).Nodup → ∀ r ∈ site.rules, ∀ kind, Reports site r kind ↔
        ∃ f ∈ findings site, f.ruleId = some r.id ∧ f.kind = kind) := by
  refine ⟨?_, ?_, fun hids r hr kind => reports_iff_of_distinct hids hr⟩
  · rw [reports_permissive_iff hinner, reports_permissive_iff houter, breadth_eq_wideOpen_iff,
      breadth_eq_wideOpen_iff]
    rintro ⟨_, _, hwide⟩
    exact ⟨huser, hnew, isWideOpen_of_contains h hwide⟩
  · rw [reports_broad_iff hinner, reports_broad_iff houter, reports_permissive_iff houter,
      breadth_eq_broad_iff, breadth_eq_broad_iff, breadth_eq_wideOpen_iff]
    rintro ⟨_, _, _, hbroad⟩
    cases hwide : isWideOpen site outer with
    | true => exact Or.inr ⟨huser, hnew, rfl⟩
    | false => exact Or.inl ⟨huser, hnew, rfl, isBroad_of_contains h hbroad⟩

/-- Lets everybody look at the pictures of one vendor. -/
def allowPictures : Rule :=
  { id := "pictures", name := "Pictures", action := .allow, enabled := true, predefined := false
    index := 2, protocol := ⟨.tcp, false⟩, stateType := .custom, states := .ofList ["NEW"]
    source := .everything, destination := ⟨.web ["img.example.com"], none, none, false⟩
    ruleset := none, hitCount := none }

/-- Lets everybody use all servers of the vendor. -/
def allowVendor : Rule :=
  { allowPictures with
      id := "vendor", name := "Vendor", index := 1, protocol := ⟨.udp, true⟩, stateType := .all
      states := .empty, destination := ⟨.web ["*.Example.com", "example.net"], none, none, false⟩ }

/-- Both rules are broad, the narrow one and the wide one. -/
theorem wider_rule_reported_vendor :
    let site := Site.ofRules [allowVendor, allowPictures] []
    allowVendor ∈ site.rules ∧ allowPictures ∈ site.rules ∧ allowVendor.isUserRule = true ∧
      allowVendor.allowsNew = true ∧
      Scope.ruleContains site allowVendor allowPictures = true ∧
      Reports site allowPictures .broadRule ∧ Reports site allowVendor .broadRule := by
  intro site
  have houter : allowVendor ∈ site.rules := by decide
  have hinner : allowPictures ∈ site.rules := by decide
  have hcontains : Scope.ruleContains site allowVendor allowPictures = true := by decide
  have hpictures : Reports site allowPictures .broadRule :=
    (reports_broad_iff hinner).2 (by decide)
  have hnarrow : ¬Reports site allowVendor .permissiveRule := by
    rw [reports_permissive_iff houter]
    decide
  have hwider := (wider_rule_reported site houter hinner rfl (by decide) hcontains).2.1 hpictures
  exact ⟨houter, hinner, rfl, by decide, hcontains, hpictures, hwider.resolve_right hnarrow⟩

end Audit.Breadth

end SiteAudit

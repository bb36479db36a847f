import SiteAudit.Audit.Run
import SiteAudit.Proofs.CheckFamilies
import SiteAudit.Proofs.ProtocolNames
import SiteAudit.Proofs.StoredFields
import SiteAudit.Proofs.TrimmedTexts
import SiteAudit.Record.Finding
import SiteAudit.Record.Rule

/-!
# Stored forms are read again as they were

Writing undoes reading: what a value was read as is written in a form that is read
as the same thing, whichever of the accepted forms the value had.  Most of the
stored types can be written and read again whatever they hold.  Three cannot, and
for them the point is that reading never gives the exceptions:

* the texts of a protocol are read in normal form only;
* numbers are read within 64 bits only, with or without a sign;
* skipped checks are read in the order in which they run.

Rules that come out of an exported document, and the reports of audits, are within
these limits as well, so both are stored without loss.

## Main results

* `Rule.ofJson_toJson`, `Report.ofJson_toJson` — within the limits nothing is lost.
* `Rule.isStorable_of_ofJson`, `Export.isStorable_of_mem_rules` — rules that are
  read, in either way, are within the limits.
* `stored_forms_read_again` — writing undoes reading, for every stored type.
-/

namespace SiteAudit

open Record

/-! ## Names of cases -/

@[simp] theorem Action.ofId_id (a : Action) : ofId? a.id = some a := by cases a <;> decide

@[simp] theorem StateType.ofId_id (s : StateType) : ofId? s.id = some s := by cases s <;> decide

@[simp] theorem GroupType.ofId_id (t : GroupType) : ofId? t.id = some t := by cases t <;> decide

@[simp] theorem Severity.ofJson_toJson (s : Severity) : ofJson? s.toJson = some s :=
  Severity.ofName_name s

/-! ## Zones, groups and findings -/

@[simp] theorem Zone.ofJson_toJson (z : Zone) : ofJson? z.toJson = some z := by
  simp [-bind_pure_comp, ofJson?, toJson, record_named]

theorem ZoneTable.ofJson_toJson (table : ZoneTable) : ofJson? table.toJson = some table := by
  have hzones := list_list fun z (_ : z ∈ table.zones) => Zone.ofJson_toJson z
  simp [-bind_pure_comp, ofJson?, toJson, record_named, hzones]

theorem Group.ofJson_toJson (g : Group) : ofJson? g.toJson = some g := by
  simp [-bind_pure_comp, ofJson?, toJson, record_named]

/-- A finding without details has no field for them, and then gets none. -/
theorem Finding.lookup_detailFields (details : Text.TextMap) :
    (Json.lookup? "metadata" (detailFields details)).elim (some Text.Sorted.empty) textMap? =
      some details := by
  rw [detailFields]
  split
  · next hempty =>
    have hentries : details.entries = [] := List.isEmpty_iff.1 hempty
    have heq : Text.Sorted.empty = details := Text.Sorted.eq_of_entries hentries.symm
    rw [← heq]
    rfl
  · exact textMap_object details

theorem Finding.ofJson_toJson (f : Finding) : ofJson? f.toJson = some f := by
  have hvlan : ∀ vlan : Option UInt16,
      nullable uint16? (.ofOption vlanToJson vlan) = some vlan := fun vlan =>
    nullable_ofOption (fun _ => Json.noConfusion) fun n _ => uint16_nat n
  simp [-bind_pure_comp, ofJson?, toJson, record_named, hvlan, FindingKind.ofCode_code,
    lookup_detailFields]

/-! ## Protocols and targets -/

/-- The protocol has a name in normal form. -/
def Protocol.IsStorable (p : Protocol) : Prop := parse p.name = p

theorem Protocol.ofJson_toJson {p : Protocol} (h : p.IsStorable) : ofJson? p.toJson = some p :=
  congrArg some h

theorem Protocol.isStorable_parse (text : String) : (parse text).IsStorable :=
  parse_name_parse text

theorem Protocol.isStorable_of_ofJson {value : Json} {p : Protocol} (h : ofJson? value = some p) :
    p.IsStorable := by
  obtain ⟨text, _, rfl⟩ := Option.map_eq_some_iff.1 h
  exact isStorable_parse text

/-- The identifiers of apps and of categories of apps have 64 bits. -/
def Target.IsStorable : Target → Prop
  | .app ids | .appCategory ids => ∀ id ∈ ids, Numeral.isSigned64 id = true
  | _ => True

theorem Target.ofJson_toJson {t : Target} (h : t.IsStorable) : ofJson? t.toJson = some t := by
  cases t with
  | app ids | appCategory ids =>
      have hids := list_list fun id hid => int_int (h id hid)
      simp [-bind_pure_comp, ofJson?, toJson, record_named, fieldsOf, hids]
  | any | network _ _ | ip _ _ | client _ | web _ | unsupported _ =>
      simp [-bind_pure_comp, ofJson?, toJson, record_named, fieldsOf]

/-- Only two kinds of targets list numbers, and these are read within 64 bits. -/
theorem Target.ensures_fieldsOf (kind : String) : Ensures (fieldsOf kind) IsStorable := by
  have hids : ∀ value ids, list? int? value = some ids →
      ∀ id ∈ ids, Numeral.isSigned64 id = true := fun _ _ =>
    forall_mem_of_list fun _ _ => isSigned64_of_int
  unfold fieldsOf
  repeat' split
  · exact .pure trivial
  · exact .skip fun _ => .skip fun _ => .pure trivial
  · exact .skip fun _ => .skip fun _ => .pure trivial
  · exact .skip fun _ => .pure trivial
  · exact .skip fun _ => .pure trivial
  · exact .bind (.required hids) fun ids h => .pure (show (Target.app ids).IsStorable from h)
  · exact .bind (.required hids) fun ids h =>
      .pure (show (Target.appCategory ids).IsStorable from h)
  · exact .skip fun _ => .pure trivial
  · exact fun _ _ _ hread => by cases hread

theorem Target.isStorable_of_ofJson {value : Json} {t : Target} (h : ofJson? value = some t) :
    t.IsStorable :=
  Ensures.of_record (.skip ensures_fieldsOf) h

/-! ## Rules -/

/-- The target is within its limits. -/
def Endpoint.IsStorable (e : Endpoint) : Prop := e.target.IsStorable

theorem Endpoint.ofJson_toJson {e : Endpoint} (h : e.IsStorable) : ofJson? e.toJson = some e := by
  simp [-bind_pure_comp, ofJson?, toJson, record_named, Target.ofJson_toJson h]

theorem Endpoint.isStorable_of_ofJson {value : Json} {e : Endpoint} (h : ofJson? value = some e) :
    e.IsStorable := by
  refine Ensures.of_record ?_ h
  refine .bind (.required fun _ _ => Target.isStorable_of_ofJson) fun target htarget => ?_
  exact .skip fun _ => .skip fun _ => .skip fun _ => .pure htarget

/-- What a rule may hold so that it is read again as it was. -/
structure Rule.IsStorable (r : Rule) : Prop where
  index : Numeral.isSigned64 r.index = true
  protocol : r.protocol.protocol.IsStorable
  source : r.source.IsStorable
  destination : r.destination.IsStorable
  hitCount : ∀ count ∈ r.hitCount, count < UInt64.size

/-- Within the limits a rule is read again as it was. -/
theorem Rule.ofJson_toJson {r : Rule} (h : r.IsStorable) : ofJson? r.toJson = some r := by
  have hcount : nullable uint64? (.ofOption .nat r.hitCount) = some r.hitCount :=
    nullable_ofOption (fun _ => Json.noConfusion) fun count hmem =>
      uint64_nat (h.hitCount count hmem)
  simp [-bind_pure_comp, ofJson?, toJson, record_named, int_int h.index,
    Protocol.ofJson_toJson h.protocol, Endpoint.ofJson_toJson h.source,
    Endpoint.ofJson_toJson h.destination, hcount, Text.Sorted.ofList_entries]

/-- A rule is only read within the limits. -/
theorem Rule.isStorable_of_ofJson {value : Json} {r : Rule} (h : ofJson? value = some r) :
    r.IsStorable := by
  refine Ensures.of_record ?_ h
  refine .skip fun _ => .skip fun _ => .skip fun _ => .skip fun _ => .skip fun _ => ?_
  refine .bind (.required fun _ _ => isSigned64_of_int) fun index hindex => ?_
  refine .bind (.required fun _ _ => Protocol.isStorable_of_ofJson) fun protocol hprotocol => ?_
  refine .skip fun _ => .skip fun _ => .skip fun _ => ?_
  refine .bind (.required fun _ _ => Endpoint.isStorable_of_ofJson) fun source hsource => ?_
  refine .bind (.required fun _ _ => Endpoint.isStorable_of_ofJson) fun dest hdestination => ?_
  refine .skip fun _ => .bind (.optional fun _ _ => lt_of_uint64) fun count hhits => .pure ?_
  exact
    { index := hindex
      protocol := hprotocol
      source := hsource
      destination := hdestination
      hitCount := hhits }

/-! ## Reports and settings -/

/-- The numbers of findings are below what 64 bits can count. -/
structure Report.IsStorable (r : Report) : Prop where
  critical : r.critical < UInt64.size
  recommended : r.recommended < UInt64.size
  informational : r.informational < UInt64.size

/-- Within the limits a report is read again as it was. -/
theorem Report.ofJson_toJson {r : Report} (h : r.IsStorable) : ofJson? r.toJson = some r := by
  have hfindings := list_list fun f (_ : f ∈ r.findings) => Finding.ofJson_toJson f
  simp [-bind_pure_comp, ofJson?, toJson, jsonFields, record_named, hfindings,
    uint64_nat h.critical, uint64_nat h.recommended, uint64_nat h.informational]

theorem Report.isStorable_of_ofJson {value : Json} {r : Report} (h : ofJson? value = some r) :
    r.IsStorable := by
  refine Ensures.of_record ?_ h
  refine .skip fun _ => .skip fun _ => ?_
  refine .bind (.required fun _ _ => lt_of_uint64) fun critical hcritical => ?_
  refine .bind (.required fun _ _ => lt_of_uint64) fun recommended hrecommended => ?_
  refine .bind (.required fun _ _ => lt_of_uint64) fun informational hinformational => .pure ?_
  exact ⟨hcritical, hrecommended, hinformational⟩

/-- No severity has more findings than there are. -/
theorem Report.isStorable_of_ofFindings {findings : List Finding} {r : Report}
    (h : ofFindings? findings = some r) (hlength : findings.length < UInt64.size) :
    r.IsStorable := by
  obtain ⟨deduction, _, rfl⟩ := ofFindings_eq_some_iff.1 h
  have hcount : ∀ severity, countOf findings severity < UInt64.size := fun severity =>
    Nat.lt_of_le_of_lt List.countP_le_length hlength
  exact ⟨hcount .critical, hcount .recommended, hcount .informational⟩

/-- The checks to skip are in the order in which they run. -/
def AuditSettings.IsStorable (s : AuditSettings) : Prop := inRunOrder s.disabled = s.disabled

theorem AuditSettings.ofJson_toJson {s : AuditSettings} (h : s.IsStorable) :
    ofJson? s.toJson = some s := by
  have hseverity : ∀ severity : Option Severity,
      nullable Severity.ofJson? (.ofOption Severity.toJson severity) = some severity := fun _ =>
    nullable_ofOption (fun _ => Json.noConfusion) fun a _ => Severity.ofJson_toJson a
  have hchecks : list? (fun value => (caseName? value).bind Check.ofId?)
      (.list (fun check => .string check.id) s.disabled) = some s.disabled :=
    list_list fun check _ => Check.ofId_id check
  have horder : inRunOrder s.disabled = s.disabled := h
  simp [-bind_pure_comp, ofJson?, toJson, record_named, hseverity, hchecks, horder]

theorem AuditSettings.isStorable_of_ofJson {value : Json} {s : AuditSettings}
    (h : ofJson? value = some s) : s.IsStorable := by
  refine Ensures.of_record ?_ h
  refine .skip fun _ => .skip fun disabled => .skip fun _ => .pure ?_
  exact inRunOrder_inRunOrder disabled

/-! ## Rules of exported documents -/

namespace Export

theorem isSigned64_of_asInteger {value : Json} {n : Int} (h : asInteger? value = some n) :
    Numeral.isSigned64 n = true := by
  cases value with
  | number number =>
      have hint : int? (.number number) = some n := h
      exact isSigned64_of_int hint
  | string s => exact (Option.filter_eq_some_iff.1 h).2
  | null | bool _ | array _ | object _ => cases h

theorem isSigned64_of_integer {doc : Json} {key : String} {n : Int}
    (h : integer? doc key = some n) : Numeral.isSigned64 n = true := by
  obtain ⟨value, _, hvalue⟩ := Option.bind_eq_some_iff.1 h
  exact isSigned64_of_asInteger hvalue

theorem isSigned64_of_mem_integers {doc : Json} {key : String} {n : Int}
    (h : n ∈ integers doc key) : Numeral.isSigned64 n = true := by
  obtain ⟨value, _, hvalue⟩ := List.mem_filterMap.1 h
  exact isSigned64_of_asInteger hvalue

/-- An index that is missing is zero. -/
theorem isSigned64_index (row : Json) (key other : String) :
    Numeral.isSigned64 (((integer? row key).or (integer? row other)).getD 0) = true := by
  cases hfound : (integer? row key).or (integer? row other) with
  | none => decide
  | some n =>
      rcases Option.or_eq_some_iff.1 hfound with h | ⟨_, h⟩
      · exact isSigned64_of_integer h
      · exact isSigned64_of_integer h

/-- Whatever kind of target a side turns out to have, its numbers are the ones of the fields. -/
theorem Side.isStorable_endpoint {s : Side} (happs : ∀ id ∈ s.apps, Numeral.isSigned64 id = true)
    (hcategories : ∀ id ∈ s.appCategories, Numeral.isSigned64 id = true) :
    s.endpoint.IsStorable :=
  s.target_endpoint (P := Target.IsStorable) trivial trivial trivial trivial trivial happs
    hcategories fun _ => trivial

/-- A flat row lists no numbers of apps, and groups add none. -/
theorem isStorable_flatSide (groups : GroupTable) (row : Json) (side : String) :
    (flatSide groups row side).endpoint.IsStorable := by
  rw [flatSide, foldl_addGroup_eq]
  exact Side.isStorable_endpoint (by simp) (by simp)

theorem isStorable_policySide (groups : GroupTable) (side : Json) :
    (policySide groups side).endpoint.IsStorable := by
  rw [policySide]
  split
  · exact Side.isStorable_endpoint (fun _ => isSigned64_of_mem_integers)
      fun _ => isSigned64_of_mem_integers
  · exact Side.isStorable_endpoint (by simp [Side.empty]) (by simp [Side.empty])

theorem isStorable_of_rule {row : Json} {index : Int} {inverted : Bool} {source destination : Side}
    {ruleset : Option String} {r : Rule} (hindex : Numeral.isSigned64 index = true)
    (hsource : source.endpoint.IsStorable) (hdestination : destination.endpoint.IsStorable)
    (h : rule? row index inverted source destination ruleset = some r) : r.IsStorable := by
  obtain ⟨id, _, rfl⟩ := Option.map_eq_some_iff.1 h
  refine
    { index := hindex
      protocol := ?_
      source := hsource
      destination := hdestination
      hitCount := ?_ }
  · show Protocol.IsStorable ((text? row "protocol").elim .all Protocol.parse)
    cases text? row "protocol" with
    | none => exact Protocol.parse_name_of_known (p := .all) (by decide)
    | some name =>
        rw [Option.elim_some]
        exact Protocol.isStorable_parse name
  · intro count hcount
    obtain ⟨n, hn, rfl⟩ := Option.map_eq_some_iff.1 (Option.mem_def.1 hcount)
    have hsigned := isSigned64_of_integer (Option.filter_eq_some_iff.1 hn).1
    simp only [Numeral.isSigned64, Bool.and_eq_true, decide_eq_true_eq] at hsigned
    have hsize : UInt64.size = 18446744073709551616 := rfl
    omega

theorem isStorable_of_policyRule {groups : GroupTable} {row : Json} {r : Rule}
    (h : policyRule? groups row = some r) : r.IsStorable :=
  isStorable_of_rule (isSigned64_index ..) (isStorable_policySide ..) (isStorable_policySide ..) h

theorem isStorable_of_rowRule {groups : GroupTable} {row : Json} {r : Rule}
    (h : rowRule? groups row = some r) : r.IsStorable := by
  rw [rowRule?] at h
  split at h
  · exact isStorable_of_policyRule h
  · exact isStorable_of_rule (isSigned64_index ..) (isStorable_flatSide ..)
      (isStorable_flatSide ..) h

/-- The rules of an exported document are within the limits. -/
theorem isStorable_of_mem_rules {groups : GroupTable} {doc : Json} {r : Rule}
    (h : r ∈ rules groups doc) : r.IsStorable := by
  obtain ⟨item, _, hitem⟩ := List.mem_flatMap.1 h
  obtain ⟨row, hrow | hrow⟩ := exists_row_of_mem_itemRules hitem
  · exact isStorable_of_rowRule hrow
  · exact isStorable_of_policyRule hrow

end Export

/-! ## All stored forms -/

/-- Whatever is read from a value is read once more from the value that it is written as. -/
def ReadAgain {α : Type} (read : Json → Option α) (write : α → Json) : Prop :=
  ∀ value a, read value = some a → read (write a) = some a

/-- **Writing undoes reading.**  What is read as a rule, a target, zones, a group, a finding, a
report, settings or a protocol is written in a form that is read as the same thing.  The rules of
every exported document are read again as they were, and so is the report of every audit whose
findings can be counted in 64 bits, as those of a list in memory can. -/
theorem stored_forms_read_again :
    (ReadAgain Rule.ofJson? Rule.toJson ∧
      ReadAgain Target.ofJson? Target.toJson ∧
      ReadAgain ZoneTable.ofJson? ZoneTable.toJson ∧
      ReadAgain Group.ofJson? Group.toJson ∧
      ReadAgain Finding.ofJson? Finding.toJson ∧
      ReadAgain Report.ofJson? Report.toJson ∧
      ReadAgain AuditSettings.ofJson? AuditSettings.toJson ∧
      ReadAgain Protocol.ofJson? Protocol.toJson) ∧
    (∀ groups doc, ∀ r ∈ Export.rules groups doc, Rule.ofJson? r.toJson = some r) ∧
    ∀ site settings r, (Audit.run site settings).length < UInt64.size →
      Report.ofFindings? (Audit.run site settings) = some r →
      Report.ofJson? r.toJson = some r := by
  refine ⟨⟨?rule, ?target, ?zones, ?group, ?finding, ?report, ?settings, ?protocol⟩, ?exported,
    ?audited⟩
  case rule => exact fun _ _ h => Rule.ofJson_toJson (Rule.isStorable_of_ofJson h)
  case target => exact fun _ _ h => Target.ofJson_toJson (Target.isStorable_of_ofJson h)
  case zones => exact fun _ table _ => ZoneTable.ofJson_toJson table
  case group => exact fun _ g _ => Group.ofJson_toJson g
  case finding => exact fun _ f _ => Finding.ofJson_toJson f
  case report => exact fun _ _ h => Report.ofJson_toJson (Report.isStorable_of_ofJson h)
  case settings =>
    exact fun _ _ h => AuditSettings.ofJson_toJson (AuditSettings.isStorable_of_ofJson h)
  case protocol => exact fun _ _ h => Protocol.ofJson_toJson (Protocol.isStorable_of_ofJson h)
  case exported =>
    exact fun _ _ _ hr => Rule.ofJson_toJson (Export.isStorable_of_mem_rules hr)
  case audited =>
    exact fun _ _ _ hlength hreport =>
      Report.ofJson_toJson (Report.isStorable_of_ofFindings hreport hlength)

/-- A rule as it may be stored by hand: the fields by position, the protocol spelled in another way,
states out of order, and no count of hits. -/
def storedByHand : Json :=
  .array
    [.string "r1", .string "Tunnels", .string "Allow", .bool true, .bool false, .int (-5),
      .string " GRE ", .bool false, .object [("CUSTOM", .null)],
      .strings ["RELATED", "NEW", "RELATED"],
      .object [("target", .object [("ids", .list .int [7]), ("kind", .string "app")]),
        ("match_opposite_ports", .bool false)],
      .array [.object [("kind", .string "any")], .string "z", .null, .bool true], .null, .null]

/-- The rule that it is read as. -/
def tunnels : Rule where
  id := "r1"
  name := "Tunnels"
  action := .allow
  enabled := true
  predefined := false
  index := -5
  protocol := ⟨.other "gre", false⟩
  stateType := .custom
  states := .ofList ["NEW", "RELATED"]
  source := ⟨.app [7], none, none, false⟩
  destination := ⟨.any, some "z", none, true⟩
  ruleset := none
  hitCount := none

/-- The same rule for all traffic, which an audit objects to. -/
def openTunnels : Rule :=
  { tunnels with
    protocol := .everything
    source := .everything
    destination := .everything }

theorem stored_forms_read_again_tunnels :
    Rule.ofJson? storedByHand = some tunnels ∧ Rule.ofJson? tunnels.toJson = some tunnels ∧
      (∃ r ∈ Export.rules ⟨[]⟩ (.object [("id", .nat 1)]), Rule.ofJson? r.toJson = some r) ∧
      (Audit.run (.ofRules [openTunnels] []) .default).length = 1 ∧
      ∃ r, Report.ofFindings? (Audit.run (.ofRules [openTunnels] []) .default) = some r ∧
        Report.ofJson? r.toJson = some r := by
  have hread : Rule.ofJson? storedByHand = some tunnels := by decide
  have hexported : Export.rules ⟨[]⟩ (.object [("id", .nat 1)]) ≠ [] := by decide
  have hone : (Audit.run (.ofRules [openTunnels] []) .default).length = 1 := by
    rw [Audit.run_single openTunnels rfl]
    rfl
  obtain ⟨⟨hrule, _⟩, hrules, haudited⟩ := stored_forms_read_again
  obtain ⟨r, hr⟩ := List.exists_mem_of_ne_nil _ hexported
  have hfits : Report.Fits (Audit.run (.ofRules [openTunnels] []) .default) :=
    Audit.fits_run (by rw [hone]; decide)
  obtain ⟨report, hreport⟩ := hfits.exists_report
  have hcountable : (Audit.run (.ofRules [openTunnels] []) .default).length < UInt64.size := by
    rw [hone]
    decide
  exact ⟨hread, hrule _ _ hread, ⟨r, hr, hrules _ _ r hr⟩, hone, report, hreport,
    haudited _ _ report hcountable hreport⟩

end SiteAudit

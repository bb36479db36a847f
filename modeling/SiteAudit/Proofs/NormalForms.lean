import SiteAudit.Proofs.ProtocolNames
import SiteAudit.Proofs.TrimmedTexts

/-!
# Rules that are read are in normal form

Rules are compared by their texts as they stand: networks by their ids, hosts by
domains, states and protocols by their names.  A blank at the end of an id or a state
in small letters would make two rules differ that mean the same.  So a reader has to
bring every text into one form, on whatever way it got there.

There are three ways.  A text stands in a field, alone or in a list; it is a member of
an address group; or it is made of the members of a port group, with commas between
them.  On the last one no blank can get to an end, because the first member begins the
whole and the last one ends it.

## Main results

* `GroupTable.isTidy_of_addresses`, `GroupTable.isTidy_of_ports` — what a group brings
  in is tidy.
* `Protocol.isNormal_parse` — a protocol that is read is in normal form.
* `Export.isTidy_flatSide`, `Export.isTidy_policySide` — so are the fields of a side, in
  both dialects.
* `Export.read_rules_normal` — every rule that is read is in normal form.
-/

namespace SiteAudit

open Text (IsTidy)

namespace Text

/-! ## Forms of texts -/

/-- No letter from `a` to `z` occurs. -/
def NoSmallLetters (s : String) : Prop := ∀ c ∈ s.toList, c.isLower = false

/-- No letter from `A` to `Z` occurs. -/
def NoCapitals (s : String) : Prop := ∀ c ∈ s.toList, c.isUpper = false

-- One look at each character of the text, not at all characters there are.
instance (s : String) : Decidable (NoSmallLetters s) :=
  List.decidableBAll (Char.isLower · = false) s.toList

theorem isLower_toUpper (c : Char) : c.toUpper.isLower = false := by
  unfold Char.isLower Char.toUpper
  split <;> grind [UInt32.toNat_add, Char.toNat_val]

theorem isUpper_toLower (c : Char) : c.toLower.isUpper = false := by
  unfold Char.isUpper Char.toLower
  split <;> grind [UInt32.toNat_add, Char.toNat_val]

theorem noSmallLetters_asciiUpper (s : String) : NoSmallLetters (asciiUpper s) := by
  intro c hc
  rw [asciiUpper, String.toList_ofList] at hc
  obtain ⟨d, _, rfl⟩ := List.mem_map.1 hc
  exact isLower_toUpper d

theorem noCapitals_asciiLower (s : String) : NoCapitals (asciiLower s) := by
  intro c hc
  rw [asciiLower, String.toList_ofList] at hc
  obtain ⟨d, _, rfl⟩ := List.mem_map.1 hc
  exact isUpper_toLower d

/-- Between two tidy texts anything may stand. -/
theorem IsTidy.append {front back : String} (hfront : IsTidy front) (hback : IsTidy back)
    (between : String) : IsTidy (front ++ between ++ back) := by
  have hfrontChars : front.toList ≠ [] := fun h => hfront.1 (String.toList_eq_nil_iff.1 h)
  have hbackChars : back.toList ≠ [] := fun h => hback.1 (String.toList_eq_nil_iff.1 h)
  refine ⟨fun h => ?_, ?_, ?_⟩
  · rw [← String.toList_eq_nil_iff, String.toList_append, List.append_eq_nil_iff] at h
    exact hbackChars h.2
  · rw [String.toList_append, String.toList_append, List.append_assoc,
      List.head?_append_of_ne_nil _ hfrontChars]
    exact hfront.2.1
  · rw [String.toList_append, List.getLast?_append_of_ne_nil _ hbackChars]
    exact hback.2.2

/-- Joined texts are tidy if each of them is and there is one. -/
theorem isTidy_joinWith {texts : List String} (hne : texts ≠ []) (h : ∀ t ∈ texts, IsTidy t)
    (separator : String) : IsTidy (joinWith separator texts) := by
  induction texts with
  | nil => exact absurd rfl hne
  | cons text texts ih =>
      have htext := h text List.mem_cons_self
      cases texts with
      | nil => simpa [joinWith] using htext
      | cons next rest =>
          have hrest := ih (List.cons_ne_nil _ _) fun t ht => h t (List.mem_cons_of_mem _ ht)
          have hjoin : joinWith separator (text :: next :: rest) =
              text ++ separator ++ joinWith separator (next :: rest) := by
            simp [joinWith]
          rw [hjoin]
          exact htext.append hrest separator

end Text

/-! ## Groups -/

namespace GroupTable

variable {groups : GroupTable} {id : String}

theorem isTidy_of_members {accepts : GroupType → Bool} {found : List String}
    (h : groups.members? accepts id = some found) : found ≠ [] ∧ ∀ t ∈ found, IsTidy t := by
  obtain ⟨group, _, _, rfl, hne⟩ := members_eq_some_iff.1 h
  refine ⟨hne, fun t ht => ?_⟩
  obtain ⟨_, _, hmember⟩ := List.mem_filterMap.1 ht
  exact Text.isTidy_of_nonBlank hmember

/-- The entries of an address group are tidy. -/
theorem isTidy_of_addresses {found : List String} (h : groups.addresses? id = some found) :
    ∀ t ∈ found, IsTidy t :=
  (isTidy_of_members h).2

/-- The specification of a port group is tidy. -/
theorem isTidy_of_ports {text : String} (h : groups.ports? id = some text) : IsTidy text := by
  obtain ⟨found, hfound, rfl⟩ := Option.map_eq_some_iff.1 h
  obtain ⟨hne, htidy⟩ := isTidy_of_members hfound
  exact Text.isTidy_joinWith hne htidy ","

end GroupTable

/-! ## Protocols -/

namespace Protocol

/-- The names in small letters that stand for one of the known protocols. -/
def knownNames : List String :=
  ["", "all", "any", "tcp", "udp", "tcp_udp", "tcp-udp", "tcp/udp", "icmp", "icmpv6", "ipv6-icmp"]

theorem ofName_eq_other_iff {word name : String} :
    ofName word = .other name ↔ word = name ∧ word ∉ knownNames := by
  unfold ofName knownNames
  grind

/-- The name of another protocol is trimmed, has no capitals and stands for no known protocol, and
the name of any protocol is read as the same one. -/
structure IsNormal (p : Protocol) : Prop where
  other : ∀ name, p = .other name →
    Text.trim name = name ∧ Text.NoCapitals name ∧ name ∉ knownNames
  again : parse p.name = p

/-- A protocol that is read is in normal form. -/
theorem isNormal_parse (text : String) : (parse text).IsNormal where
  other name h := by
    obtain ⟨rfl, hknown⟩ := ofName_eq_other_iff.1 h
    refine ⟨?_, Text.noCapitals_asciiLower _, hknown⟩
    rw [Text.trim_asciiLower, Text.trim_trim]
  again := parse_name_parse text

theorem isNormal_all : all.IsNormal where
  other _ := nofun
  again := parse_name_of_known (by decide)

end Protocol

/-! ## Sides and rules -/

/-- The ids, addresses and domains that a target lists. -/
def Target.texts : Target → List String
  | .network ids _ => ids
  | .ip entries _ => entries
  | .client macs => macs
  | .web domains => domains
  | .any | .app _ | .appCategory _ | .unsupported _ => []

/-- The names of targets that are told apart. -/
def Target.supportedNames : List String :=
  ["ANY", "NETWORK", "IP", "CLIENT", "MAC", "WEB", "DOMAIN", "APP", "APP_CATEGORY"]

/-- What a target lists is tidy, and a target with a supported name is supported. -/
structure Target.IsNormal (t : Target) : Prop where
  texts : ∀ s ∈ t.texts, IsTidy s
  unsupported : ∀ name, t = .unsupported name → name ∉ supportedNames

/-- The texts of a side are tidy. -/
structure Endpoint.IsNormal (e : Endpoint) : Prop where
  target : e.target.IsNormal
  zone : ∀ s ∈ e.zone, IsTidy s
  port : ∀ s ∈ e.port, IsTidy s

/-- The texts of a rule are tidy, its states are in capitals, and its protocol is told by name. -/
structure Rule.IsNormal (r : Rule) : Prop where
  id : IsTidy r.id
  source : r.source.IsNormal
  destination : r.destination.IsNormal
  states : ∀ state ∈ r.states.entries, Text.NoSmallLetters state
  protocol : r.protocol.protocol.IsNormal

namespace Export

/-- The fields of a side are tidy. -/
structure Side.IsTidy (s : Side) : Prop where
  networks : ∀ t ∈ s.networks, Text.IsTidy t
  addresses : ∀ t ∈ s.addresses, Text.IsTidy t
  macs : ∀ t ∈ s.macs, Text.IsTidy t
  domains : ∀ t ∈ s.domains, Text.IsTidy t
  zone : ∀ t ∈ s.zone, Text.IsTidy t
  port : ∀ t ∈ s.port, Text.IsTidy t

theorem Side.isTidy_empty : empty.IsTidy := by
  constructor <;> simp [empty]

/-- A target is unsupported only under a name that no supported target has. -/
theorem Side.not_mem_supportedNames {s : Side} {name : String}
    (h : s.endpoint.target = .unsupported name) : name ∉ Target.supportedNames := by
  simp only [endpoint] at h
  split at h
  · unfold namedTarget at h
    unfold Target.supportedNames
    grind
  · unfold impliedTarget at h
    grind

/-- Tidy fields make a side in normal form, whatever target they turn out to describe. -/
theorem Side.IsTidy.endpoint {s : Side} (h : s.IsTidy) : s.endpoint.IsNormal where
  target :=
    { texts := s.target_endpoint (P := fun t => ∀ text ∈ t.texts, Text.IsTidy text)
        (fun _ => nofun) h.networks h.addresses h.macs h.domains (fun _ => nofun) (fun _ => nofun)
        fun _ _ => nofun
      unsupported := fun _ => not_mem_supportedNames }
  zone := h.zone
  port := h.port

theorem isTidy_of_mem_pushUnique {list texts : List String} (hlist : ∀ t ∈ list, IsTidy t)
    (htexts : ∀ t ∈ texts, IsTidy t) : ∀ t ∈ pushUnique list texts, IsTidy t :=
  fun t ht => (mem_pushUnique.1 ht).elim (hlist t) (htexts t)

theorem isTidy_flatSide (groups : GroupTable) (row : Json) (side : String) :
    (flatSide groups row side).IsTidy := by
  have hmany : ∀ name, ∀ t ∈ labels row (side ++ "_" ++ name), IsTidy t :=
    fun _ _ => isTidy_of_mem_labels
  have hone : ∀ name, ∀ t ∈ (label? row (side ++ "_" ++ name)).toList, IsTidy t :=
    fun _ _ ht => isTidy_of_label (Option.mem_toList.1 ht)
  have hnone : ∀ t ∈ ([] : List String), IsTidy t := fun _ ht => absurd ht List.not_mem_nil
  have hgrouped : ∀ t ∈ ((groupIds row side).filterMap groups.addresses?).flatten, IsTidy t := by
    intro t ht
    obtain ⟨entries, hentries, ht⟩ := List.mem_flatten.1 ht
    obtain ⟨id, _, hid⟩ := List.mem_filterMap.1 hentries
    exact GroupTable.isTidy_of_addresses hid t ht
  have hports : ∀ t ∈ (groupIds row side).findSome? groups.ports?, IsTidy t := by
    intro t ht
    obtain ⟨id, _, hid⟩ := List.exists_of_findSome?_eq_some ht
    exact GroupTable.isTidy_of_ports hid
  rw [flatSide, foldl_addGroup_eq]
  exact
    { networks := isTidy_of_mem_pushUnique (isTidy_of_mem_pushUnique
        (isTidy_of_mem_pushUnique hnone (hmany _)) (hone _)) (hone _)
      addresses := isTidy_of_mem_pushUnique (isTidy_of_mem_pushUnique
        (isTidy_of_mem_pushUnique hnone (hmany _)) (hone _)) hgrouped
      macs := isTidy_of_mem_pushUnique (isTidy_of_mem_pushUnique hnone (hmany _)) (hone _)
      domains := hmany _
      zone := fun _ => isTidy_of_text
      port := fun t ht => (Option.or_eq_some_iff.1 ht).elim isTidy_of_label fun h => hports t h.2 }

theorem isTidy_policyPort (groups : GroupTable) (side : Json) :
    ∀ t ∈ policyPort? groups side, IsTidy t := by
  intro t ht
  rw [Option.mem_def, policyPort?] at ht
  split at ht
  · cases ht
  · split at ht
    · obtain ⟨_, _, hgroup⟩ := Option.bind_eq_some_iff.1 ht
      exact GroupTable.isTidy_of_ports hgroup
    · exact isTidy_of_label ht

theorem isTidy_policySide (groups : GroupTable) (side : Json) :
    (policySide groups side).IsTidy := by
  have hgrouped : ∀ t ∈ ((text? side "ip_group_id").bind groups.addresses?).getD [], IsTidy t := by
    cases hfound : (text? side "ip_group_id").bind groups.addresses? with
    | none => exact fun _ ht => absurd ht List.not_mem_nil
    | some found =>
        obtain ⟨_, _, hgroup⟩ := Option.bind_eq_some_iff.1 hfound
        exact GroupTable.isTidy_of_addresses hgroup
  rw [policySide]
  split
  · exact
      { networks := fun _ => isTidy_of_mem_labels
        addresses := isTidy_of_mem_pushUnique (fun _ => isTidy_of_mem_labels) hgrouped
        macs := fun _ => isTidy_of_mem_labels
        domains := fun _ => isTidy_of_mem_labels
        zone := fun _ => isTidy_of_text
        port := isTidy_policyPort groups side }
  · exact Side.isTidy_empty

/-! ## Rows and documents -/

theorem isTidy_of_rowId {row : Json} {id : String} (h : rowId? row = some id) : IsTidy id :=
  (Option.or_eq_some_iff.1 h).elim isTidy_of_label fun h => isTidy_of_label h.2

theorem noSmallLetters_switchedStates (row : Json) :
    ∀ state ∈ switchedStates row, Text.NoSmallLetters state := by
  have hnames : ∀ state ∈ connectionStates, Text.NoSmallLetters state := by decide
  exact fun state hstate => hnames state (List.mem_of_mem_filter hstate)

theorem noSmallLetters_namedStates {row : Json} {type : StateType} {names : Text.NameSet}
    (h : namedStates? row = some (type, names)) :
    ∀ state ∈ names.entries, Text.NoSmallLetters state := by
  obtain ⟨_, _, h⟩ := Option.bind_eq_some_iff.1 h
  obtain ⟨_, _, h⟩ := Option.bind_eq_some_iff.1 h
  cases h
  intro state hstate
  obtain ⟨label, _, rfl⟩ := List.mem_map.1 (Text.Sorted.mem_ofList_names.1 hstate)
  exact Text.noSmallLetters_asciiUpper label

/-- States are in capitals, whether a row lists them or has a switch for each. -/
theorem noSmallLetters_states (row : Json) :
    ∀ state ∈ (states row).2.entries, Text.NoSmallLetters state := by
  rw [states]
  cases hnamed : namedStates? row with
  | some named => exact noSmallLetters_namedStates hnamed
  | none =>
      rw [Option.getD_none, statesOfSwitches]
      intro state hstate
      split at hstate
      · exact absurd hstate List.not_mem_nil
      · refine noSmallLetters_switchedStates row state (Text.Sorted.mem_ofList_names.1 ?_)
        split at hstate <;> exact hstate

theorem isNormal_protocol (name : Option String) :
    (name.elim Protocol.all Protocol.parse).IsNormal := by
  cases name with
  | none => exact Protocol.isNormal_all
  | some text =>
      rw [Option.elim_some]
      exact Protocol.isNormal_parse text

theorem isNormal_of_rule {row : Json} {index : Int} {inverted : Bool} {source destination : Side}
    {ruleset : Option String} (hsource : source.IsTidy) (hdestination : destination.IsTidy)
    {r : Rule} (h : rule? row index inverted source destination ruleset = some r) :
    r.IsNormal := by
  obtain ⟨id, hid, rfl⟩ := Option.map_eq_some_iff.1 h
  exact
    { id := isTidy_of_rowId hid
      source := hsource.endpoint
      destination := hdestination.endpoint
      states := noSmallLetters_states row
      protocol := isNormal_protocol (text? row "protocol") }

theorem isNormal_of_policyRule {groups : GroupTable} {row : Json} {r : Rule}
    (h : policyRule? groups row = some r) : r.IsNormal :=
  isNormal_of_rule (isTidy_policySide groups _) (isTidy_policySide groups _) h

theorem isNormal_of_rowRule {groups : GroupTable} {row : Json} {r : Rule}
    (h : rowRule? groups row = some r) : r.IsNormal := by
  rw [rowRule?] at h
  split at h
  · exact isNormal_of_policyRule h
  · exact isNormal_of_rule (isTidy_flatSide groups row "src") (isTidy_flatSide groups row "dst") h

/-- **Every rule that is read is in normal form.**  Its id is tidy, and so are the networks,
addresses, clients and domains of both sides, their zones and their ports.  Its states have no small
letters.  A protocol that is not a known one is named in small letters without blanks around them,
and not by a name of a known one; any protocol is read again from its name.  A target is unsupported
only under a name that no supported target has. -/
theorem read_rules_normal {groups : GroupTable} {doc : Json} {r : Rule} (h : r ∈ rules groups doc) :
    r.IsNormal := by
  obtain ⟨item, _, hitem⟩ := List.mem_flatMap.1 h
  obtain ⟨row, hrow | hrow⟩ := exists_row_of_mem_itemRules hitem
  · exact isNormal_of_rowRule hrow
  · exact isNormal_of_policyRule hrow

/-- Groups whose members have blanks around them. -/
def paddedGroups : GroupTable := .ofList
  [⟨"hosts", "Hosts", .address, [" 10.0.0.5 ", ""]⟩,
    ⟨"ports", "Ports", .port, [" 80 - 81 ", " ", "443\t"]⟩]

/-- A flat row and a policy, with blanks around their texts and in letters of either case. -/
def paddedExport : Json := .array
  [.object [("_id", .nat 17), ("protocol", .string " GRE "),
      ("connection_state_type", .string "custom"),
      ("connection_states", .strings ["Related ", "new"]),
      ("src_network_ids", .array [.string " guests", .nat 20]), ("src_zone_id", .string "lan "),
      ("dst_address", .string " 10.0.0.4"), ("dst_firewallgroup_ids", .strings ["hosts", "ports"])],
    .object [("id", .string " office "),
      ("source", .object [("matching_target", .string "web"),
        ("web_domains", .string "example.org ")]),
      ("destination", .object [("matching_target", .string "Region")])]]

/-- Both rules are read in normal form, with what the groups bring in. -/
theorem read_rules_normal_padded :
    ((rules paddedGroups paddedExport).map fun r =>
        (r.id, r.source, r.destination, r.states.entries, r.protocol.protocol)) =
      [("17", ⟨.network ["guests", "20"] false, some "lan", none, false⟩,
          ⟨.ip ["10.0.0.4", "10.0.0.5"] false, none, some "80 - 81,443", false⟩,
          ["NEW", "RELATED"], .other "gre"),
        ("office", ⟨.web ["example.org"], none, none, false⟩,
          ⟨.unsupported "REGION", none, none, false⟩, [], .all)] ∧
      ∃ flat policy, rules paddedGroups paddedExport = [flat, policy] ∧
        flat.IsNormal ∧ policy.IsNormal := by
  obtain ⟨flat, policy, hread⟩ :=
    List.length_eq_two.1 (show (rules paddedGroups paddedExport).length = 2 by decide +kernel)
  have hflat : flat ∈ rules paddedGroups paddedExport := by simp [hread]
  have hpolicy : policy ∈ rules paddedGroups paddedExport := by simp [hread]
  exact ⟨by decide +kernel, flat, policy, hread, read_rules_normal hflat,
    read_rules_normal hpolicy⟩

end Export

end SiteAudit

import SiteAudit.Proofs.FirstOccurrences

/-!
# References to groups

A side of a flat row refers to address groups and port groups in one list.  The list
is read in one pass, which adds the members of address groups to the addresses that
the side has already, and takes a port from the first port group if the side has none
of its own.

No id stands for groups of both types, since a table has one group for each id.  So
the pass is two passes that do not see each other: one through the address groups and
one through the port groups.  What else the list holds, and how the two are mixed,
makes no difference.

## Main results

* `GroupTable.ports_eq_none_of_addresses` — no id is that of an address group and of a
  port group.
* `foldl_addGroup_eq` — what a pass through a list of ids adds.
* `addresses_flatSide`, `port_flatSide` — the addresses and the port of a side.
* `references_merged` — which changes of the list change nothing, and what it adds.
-/

namespace SiteAudit

namespace GroupTable

variable {groups : GroupTable} {id : String} {entries : List String}

/-- Whether the id is that of an address group with members. -/
def isAddressGroup (groups : GroupTable) (id : String) : Bool := (groups.addresses? id).isSome

/-- Whether the id is that of a port group with members. -/
def isPortGroup (groups : GroupTable) (id : String) : Bool := (groups.ports? id).isSome

/-- No id is that of an address group and of a port group. -/
theorem ports_eq_none_of_addresses (h : groups.addresses? id = some entries) :
    groups.ports? id = none := by
  obtain ⟨group, hgroup, haddress, _⟩ := members_eq_some_iff.1 h
  rw [ports?, Option.map_eq_none_iff, Option.eq_none_iff_forall_ne_some]
  intro members hmembers
  obtain ⟨other, hother, hport, _⟩ := members_eq_some_iff.1 hmembers
  have htype : group.type = .port := by
    rw [hgroup] at hother
    cases hother
    exact beq_iff_eq.1 hport
  rw [htype] at haddress
  cases haddress

end GroupTable

namespace Export

/-! ## One pass through the references -/

/-- What a pass through a list of ids adds to a side: the members of the address groups, and where
there is no port yet that of the first port group. -/
theorem foldl_addGroup_eq (groups : GroupTable) (ids : List String) (s : Side) :
    ids.foldl (addGroup groups) s =
      { s with
        addresses := pushUnique s.addresses (ids.filterMap groups.addresses?).flatten
        port := s.port.or (ids.findSome? groups.ports?) } := by
  induction ids generalizing s with
  | nil => simp [pushUnique]
  | cons id ids ih =>
      rw [List.foldl_cons, ih, addGroup]
      cases haddresses : groups.addresses? id with
      | some entries =>
          rw [List.filterMap_cons_some haddresses, List.flatten_cons, pushUnique_append,
            List.findSome?_cons, GroupTable.ports_eq_none_of_addresses haddresses]
      | none =>
          rw [List.filterMap_cons_none haddresses, List.findSome?_cons]
          cases hport : groups.ports? id <;> cases s.port <;> simp

/-- The ids of the groups that a side of a flat row refers to. -/
def groupIds (row : Json) (side : String) : List String :=
  labels row (side ++ "_" ++ "firewallgroup_ids")

variable {groups : GroupTable} {row other : Json} {side : String}

/-- The addresses of a side are the first occurrences of those that its fields list, and then of
the members of the address groups. -/
theorem addresses_flatSide (groups : GroupTable) (row : Json) (side : String) :
    (flatSide groups row side).addresses =
      firstOfEach id
        (labels row (side ++ "_" ++ "ips") ++ (label? row (side ++ "_" ++ "address")).toList ++
          ((groupIds row side).filterMap groups.addresses?).flatten) := by
  rw [flatSide, foldl_addGroup_eq, ← pushUnique_nil, pushUnique_append, pushUnique_append]
  rfl

/-- The port of a side is its own, or else that of the first port group. -/
theorem port_flatSide (groups : GroupTable) (row : Json) (side : String) :
    (flatSide groups row side).port =
      (label? row (side ++ "_" ++ "port")).or ((groupIds row side).findSome? groups.ports?) := by
  rw [flatSide, foldl_addGroup_eq]
  rfl

/-! ## Rows with other references -/

/-- Both rows have the same fields, except for the groups that the side refers to. -/
def SameButGroups (side : String) (row other : Json) : Prop :=
  ∀ key, key ≠ side ++ "_" ++ "firewallgroup_ids" → other.get? key = row.get? key

/-- The row of these fields, with a list of groups that the side refers to. -/
def referring (side : String) (fields : List (String × Json)) (ids : List String) : Json :=
  .object (Json.put (side ++ "_" ++ "firewallgroup_ids") (.strings ids) fields)

theorem sameButGroups_referring (side : String) (fields : List (String × Json))
    (ids others : List String) :
    SameButGroups side (referring side fields ids) (referring side fields others) := by
  intro key hkey
  exact (Json.lookup_put_of_ne hkey.symm _ fields).trans
    (Json.lookup_put_of_ne hkey.symm _ fields).symm

/-- A side depends on its references only through the members of the address groups and the port of
the first port group. -/
theorem SameButGroups.flatSide_eq (h : SameButGroups side row other)
    (haddresses : (groupIds other side).filterMap groups.addresses? =
      (groupIds row side).filterMap groups.addresses?)
    (hports : (groupIds other side).findSome? groups.ports? =
      (groupIds row side).findSome? groups.ports?) :
    flatSide groups other side = flatSide groups row side := by
  have hget : ∀ name, name ≠ "firewallgroup_ids" →
      other.get? (side ++ "_" ++ name) = row.get? (side ++ "_" ++ name) := fun name hname =>
    h _ (by simpa using hname)
  have htext : ∀ name, name ≠ "firewallgroup_ids" →
      text? other (side ++ "_" ++ name) = text? row (side ++ "_" ++ name) := fun name hname => by
    rw [text?, text?, hget name hname]
  have hlabel : ∀ name, name ≠ "firewallgroup_ids" →
      label? other (side ++ "_" ++ name) = label? row (side ++ "_" ++ name) := fun name hname => by
    rw [label?, label?, hget name hname]
  have hlabels : ∀ name, name ≠ "firewallgroup_ids" →
      labels other (side ++ "_" ++ name) = labels row (side ++ "_" ++ name) := fun name hname => by
    rw [labels, labels, hget name hname]
  have hon : ∀ name, name ≠ "firewallgroup_ids" →
      isOn other (side ++ "_" ++ name) = isOn row (side ++ "_" ++ name) := fun name hname => by
    rw [isOn, isOn, flag?, flag?, hget name hname]
  rw [groupIds, groupIds] at haddresses hports
  simp (disch := decide) only [flatSide, foldl_addGroup_eq, htext, hlabel, hlabels, hon,
    haddresses, hports]

theorem filterMap_filter_isSome {α β : Type} (f : α → Option β) (members : List α) :
    (members.filter fun a => (f a).isSome).filterMap f = members.filterMap f := by
  rw [List.filterMap_filter]
  refine List.filterMap_congr fun a _ => ?_
  cases f a <;> rfl

/-- Nothing changes as long as the address groups are the same in the same order, and so are the
port groups. -/
theorem SameButGroups.flatSide_eq_of_filter (h : SameButGroups side row other)
    (haddresses : (groupIds other side).filter groups.isAddressGroup =
      (groupIds row side).filter groups.isAddressGroup)
    (hports : (groupIds other side).filter groups.isPortGroup =
      (groupIds row side).filter groups.isPortGroup) :
    flatSide groups other side = flatSide groups row side := by
  apply h.flatSide_eq
  · rw [← filterMap_filter_isSome groups.addresses?, ← filterMap_filter_isSome groups.addresses?
      (groupIds row side)]
    exact congrArg _ haddresses
  · rw [← List.head?_filterMap, ← List.head?_filterMap, ← filterMap_filter_isSome groups.ports?,
      ← filterMap_filter_isSome groups.ports? (groupIds row side)]
    exact congrArg (fun ids => (ids.filterMap groups.ports?).head?) hports

/-- What is true of each target that the fields of a side can make is true of its target. -/
theorem Side.target_endpoint {s : Side} {P : Target → Prop} (any : P .any)
    (network : P (.network s.networks s.invertNetworks))
    (ip : P (.ip s.addresses s.invertAddresses)) (client : P (.client s.macs))
    (web : P (.web s.domains)) (app : P (.app s.apps))
    (appCategory : P (.appCategory s.appCategories)) (unsupported : ∀ name, P (.unsupported name)) :
    P s.endpoint.target := by
  simp only [endpoint]
  split
  · unfold namedTarget
    grind
  · unfold impliedTarget
    grind

/-- The entries of a target that lists addresses are the addresses of the side, whether the side
names its target or not. -/
theorem Side.entries_of_target_ip {s : Side} {entries : List String} {inverted : Bool}
    (h : s.endpoint.target = .ip entries inverted) : entries = s.addresses := by
  have hall : ∀ entries inverted, s.endpoint.target = .ip entries inverted →
      entries = s.addresses :=
    s.target_endpoint (P := fun t => ∀ entries inverted, t = .ip entries inverted →
        entries = s.addresses)
      nofun nofun (fun _ _ hip => (Target.ip.inj hip).1.symm) nofun nofun nofun nofun
      fun _ => nofun
  exact hall entries inverted h

/-! ## Summary -/

/-- **References are merged as if each kind had a list of its own.**  Take a side of a flat row.  An
id that is neither that of an address group nor that of a port group can be left out.  More
generally, the side stays the same for any other list of ids that refers to the same address groups
in the same order and to the same port groups in the same order.  If the target lists addresses,
these are the first occurrences in the addresses of the side, then its single address, then the
members of the address groups.  The port is that of the side, or else that of the first port
group. -/
theorem references_merged (groups : GroupTable) (row : Json) (side : String) :
    (∀ other front id back, SameButGroups side row other →
        groupIds row side = front ++ id :: back → groupIds other side = front ++ back →
        groups.addresses? id = none → groups.ports? id = none →
        (flatSide groups other side).endpoint = (flatSide groups row side).endpoint) ∧
      (∀ other, SameButGroups side row other →
        (groupIds other side).filter groups.isAddressGroup =
          (groupIds row side).filter groups.isAddressGroup →
        (groupIds other side).filter groups.isPortGroup =
          (groupIds row side).filter groups.isPortGroup →
        (flatSide groups other side).endpoint = (flatSide groups row side).endpoint) ∧
      (∀ entries inverted, (flatSide groups row side).endpoint.target = .ip entries inverted →
        entries = firstOfEach id
          (labels row (side ++ "_" ++ "ips") ++ (label? row (side ++ "_" ++ "address")).toList ++
            ((groupIds row side).filterMap groups.addresses?).flatten)) ∧
      (flatSide groups row side).endpoint.port =
        (label? row (side ++ "_" ++ "port")).or
          ((groupIds row side).findSome? groups.ports?) := by
  refine ⟨fun other front id back h hrow hother haddress hport => ?_,
    fun other h haddresses hports => ?_, fun entries inverted htarget => ?_, ?_⟩
  · have hunresolved : groups.isAddressGroup id = false ∧ groups.isPortGroup id = false := by
      rw [GroupTable.isAddressGroup, GroupTable.isPortGroup, haddress, hport]
      exact ⟨rfl, rfl⟩
    have hfilter : ∀ p : String → Bool, p id = false →
        (groupIds other side).filter p = (groupIds row side).filter p := fun p hp => by
      rw [hrow, hother, List.filter_append, List.filter_append,
        List.filter_cons_of_neg (by simp [hp])]
    rw [h.flatSide_eq_of_filter (hfilter _ hunresolved.1) (hfilter _ hunresolved.2)]
  · rw [h.flatSide_eq_of_filter haddresses hports]
  · rw [Side.entries_of_target_ip htarget, addresses_flatSide]
  · exact port_flatSide groups row side

/-- Two address groups that share a member, two port groups, and a group without members. -/
def officeGroups : GroupTable := .ofList
  [⟨"cameras", "Cameras", .address, ["10.0.30.5", " ", "10.0.30.7 "]⟩,
    ⟨"doors", "Doors", .address, ["10.0.30.8", "10.0.30.7"]⟩,
    ⟨"web", "Web", .port, ["80", "443"]⟩, ⟨"alternate", "Alternate", .port, ["8080"]⟩,
    ⟨"empty", "Empty", .port, [" "]⟩]

/-- A row whose source lists addresses of its own and refers to groups. -/
def officeRow (ids : List String) : Json :=
  referring "src"
    [("_id", .string "office"), ("src_ips", .strings ["10.0.30.7", "10.0.20.4"]),
      ("src_address", .string "10.0.30.5")] ids

/-- The group without members is left out, and then the address groups and the port groups are put
apart; the source keeps its four addresses and the port of the first port group. -/
theorem references_merged_office :
    let row := officeRow ["web", "doors", "empty", "alternate", "cameras"]
    let entries := ["10.0.30.7", "10.0.20.4", "10.0.30.5", "10.0.30.8"]
    (flatSide officeGroups (officeRow ["web", "doors", "alternate", "cameras"]) "src").endpoint =
        (flatSide officeGroups row "src").endpoint ∧
      (flatSide officeGroups (officeRow ["doors", "cameras", "web", "alternate"]) "src").endpoint =
        (flatSide officeGroups row "src").endpoint ∧
      (flatSide officeGroups row "src").endpoint.target = .ip entries false ∧
      entries = firstOfEach id
        (["10.0.30.7", "10.0.20.4"] ++ ["10.0.30.5"] ++
          (["10.0.30.8", "10.0.30.7"] ++ ["10.0.30.5", "10.0.30.7"])) ∧
      (flatSide officeGroups row "src").endpoint.port = some "80,443" := by
  intro row entries
  obtain ⟨hdeleted, hreordered, hentries, hport⟩ := references_merged officeGroups row "src"
  have htarget : (flatSide officeGroups row "src").endpoint.target = .ip entries false := by decide
  refine ⟨?_, ?_, htarget, hentries entries false htarget, ?_⟩
  · exact hdeleted _ ["web", "doors"] "empty" ["alternate", "cameras"]
      (sameButGroups_referring _ _ _ _) (by decide) (by decide) (by decide) (by decide)
  · exact hreordered _ (sameButGroups_referring _ _ _ _) (by decide) (by decide)
  · rw [hport]
    decide

end Export

end SiteAudit

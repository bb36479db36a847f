import SiteAudit.Export.Rules

/-!
# One rule in two dialects

A policy nests its sides; a flat row has the same fields under longer names.  As
long as a policy uses nothing that only one of the dialects knows, its flat row
should be read as the same rule, whatever the values of the fields are.

A reader looks at a row through its fields only, so what has to be shown is about
looking up names.  The fields that belong to no side stay where they are; a field
of a side is found under its longer name, and under no other.  What is left are
the differences between the readers of sides: one drops repeated entries, and
each has names that the other one does not look at.

## Main results

* `get_flattened` — fields outside the sides stay where they are.
* `get_flattened_side` — fields of a side are found under their longer names.
* `flatSide_eq`, `policySide_eq` — both readers of sides, where they agree.
* `flatRule_flattened` — the rule of the flat row is that of the policy.
-/

namespace SiteAudit

/-! ## Names of fields -/

namespace Json

/-- The names of the fields of an object; other values have none. -/
def names : Json → List String
  | .object fields => fields.map fun field => field.1
  | _ => []

variable {key : String}

theorem lookup_append (front back : List (String × Json)) :
    lookup? key (front ++ back) = (lookup? key front).or (lookup? key back) := by
  induction front with
  | nil => rfl
  | cons field front ih =>
      obtain ⟨name, value⟩ := field
      by_cases hname : name = key
      · simp [lookup?, hname]
      · simpa [lookup?, hname] using ih

theorem lookup_eq_none {fields : List (String × Json)} (h : ∀ field ∈ fields, field.1 ≠ key) :
    lookup? key fields = none := by
  induction fields with
  | nil => rfl
  | cons field fields ih =>
      rw [lookup?, if_neg (h field List.mem_cons_self)]
      exact ih fun other hother => h other (List.mem_cons_of_mem _ hother)

theorem lookup_filter {fields : List (String × Json)} {p : String → Bool} (hkey : p key = true) :
    lookup? key (fields.filter fun field => p field.1) = lookup? key fields := by
  induction fields with
  | nil => rfl
  | cons field fields ih =>
      obtain ⟨name, value⟩ := field
      by_cases hp : p name = true
      · simp [lookup?, hp, ih]
      · have hname : name ≠ key := fun h => hp (h ▸ hkey)
        simp [lookup?, hp, hname, ih]

theorem get_eq_none {doc : Json} (h : key ∉ doc.names) : doc.get? key = none := by
  cases doc with
  | object fields =>
      exact lookup_eq_none fun field hfield hname => h (List.mem_map.2 ⟨field, hfield, hname⟩)
  | null | bool _ | number _ | string _ | array _ => rfl

end Json

namespace Export

open Json (lookup?)

/-! ## Flat rows -/

/-- The fields of an object; other values have none. -/
def fieldsOf : Json → List (String × Json)
  | .object fields => fields
  | _ => []

/-- The side that a policy nests under a name. -/
def nested (row : Json) (side : String) : Json := (row.get? side).getD .null

/-- The fields of a side under their longer names. -/
def moved (side : String) (fields : List (String × Json)) : List (String × Json) :=
  fields.map fun field => (side ++ "_" ++ field.1, field.2)

/-- Whether a field of a policy is none of its sides. -/
def staysPut (name : String) : Bool := name != "source" && name != "destination"

/-- The flat row of a policy. -/
def flattened (row : Json) : Json :=
  match row with
  | .object fields =>
    .object <| fields.filter (fun field => staysPut field.1) ++
      (moved "src" (fieldsOf (nested row "source")) ++
        moved "dst" (fieldsOf (nested row "destination")))
  | _ => row

theorem lookup_fieldsOf (key : String) (doc : Json) :
    lookup? key (fieldsOf doc) = doc.get? key := by
  cases doc <;> rfl

theorem lookup_moved (side name : String) (fields : List (String × Json)) :
    lookup? (side ++ "_" ++ name) (moved side fields) = lookup? name fields := by
  induction fields with
  | nil => rfl
  | cons field fields ih =>
      obtain ⟨other, value⟩ := field
      show (if side ++ "_" ++ other = side ++ "_" ++ name then some value
        else lookup? (side ++ "_" ++ name) (moved side fields)) = _
      rw [ih, lookup?]
      simp

/-- A name that does not start like those of a side is not among them. -/
theorem lookup_moved_eq_none (side : String) {key : String} (fields : List (String × Json))
    (h : (side ++ "_").toList.isPrefixOf key.toList = false) :
    lookup? key (moved side fields) = none := by
  refine Json.lookup_eq_none fun field hfield hname => ?_
  obtain ⟨⟨original, value⟩, _, rfl⟩ := List.mem_map.1 hfield
  have hstarts : (side ++ "_").toList.isPrefixOf key.toList = true := by
    rw [← hname, String.toList_append (s := side ++ "_"), List.isPrefixOf_iff_prefix]
    exact List.prefix_append ..
  rw [h] at hstarts
  cases hstarts

/-- Whether a name starts like those of a side in a flat row. -/
def isSideName (key : String) : Bool :=
  "src_".toList.isPrefixOf key.toList || "dst_".toList.isPrefixOf key.toList

/-- Fields that belong to no side stay where they are. -/
theorem get_flattened {row : Json} {key : String} (hside : isSideName key = false)
    (hkey : staysPut key = true) : (flattened row).get? key = row.get? key := by
  rw [isSideName, Bool.or_eq_false_iff] at hside
  cases row with
  | object fields =>
      show lookup? key (_ ++ (_ ++ _)) = lookup? key fields
      rw [Json.lookup_append, Json.lookup_append,
        lookup_moved_eq_none "src" _ hside.1,
        lookup_moved_eq_none "dst" _ hside.2, Json.lookup_filter hkey]
      simp
  | null | bool _ | number _ | string _ | array _ => rfl

/-- The fields of both sides are found under their longer names, where the row has no field with
such a name already. -/
theorem get_flattened_side {row : Json} (hrow : ∀ key ∈ row.names, isSideName key = false)
    (name : String) :
    (flattened row).get? ("src" ++ "_" ++ name) = (nested row "source").get? name ∧
      (flattened row).get? ("dst" ++ "_" ++ name) = (nested row "destination").get? name := by
  cases row with
  | object fields =>
      have hsource : isSideName ("src" ++ "_" ++ name) = true := by
        simp [isSideName, List.isPrefixOf]
      have hdestination : isSideName ("dst" ++ "_" ++ name) = true := by
        simp [isSideName, List.isPrefixOf]
      have hfree : ∀ key, isSideName key = true →
          lookup? key (fields.filter fun field => staysPut field.1) = none := by
        intro key hkey
        refine Json.lookup_eq_none fun field hfield hname => ?_
        have hmem : field.1 ∈ (Json.object fields).names :=
          List.mem_map_of_mem (List.mem_filter.1 hfield).1
        rw [hname] at hmem
        rw [hrow key hmem] at hkey
        cases hkey
      have hother : lookup? ("dst" ++ "_" ++ name)
          (moved "src" (fieldsOf (nested (.object fields) "source"))) = none :=
        lookup_moved_eq_none _ _ (by simp [List.isPrefixOf])
      have hlast : lookup? ("src" ++ "_" ++ name)
          (moved "dst" (fieldsOf (nested (.object fields) "destination"))) = none :=
        lookup_moved_eq_none _ _ (by simp [List.isPrefixOf])
      constructor
      · show lookup? ("src" ++ "_" ++ name) (_ ++ (_ ++ _)) = _
        rw [Json.lookup_append, Json.lookup_append, hfree _ hsource, lookup_moved, hlast,
          lookup_fieldsOf, Option.none_or, Option.or_none]
      · show lookup? ("dst" ++ "_" ++ name) (_ ++ (_ ++ _)) = _
        rw [Json.lookup_append, Json.lookup_append, hfree _ hdestination, hother, lookup_moved,
          lookup_fieldsOf, Option.none_or, Option.none_or]
  | null | bool _ | number _ | string _ | array _ => exact ⟨rfl, rfl⟩

/-! ## Sides -/

/-- The names that both dialects give to fields of a side. -/
def sharedNames : List String :=
  ["matching_target", "zone_id", "port", "network_ids", "ips", "web_domains",
    "match_opposite_networks", "match_opposite_ips", "match_opposite_ports"]

/-- A side with fields that both dialects have, and without repeated entries in the lists in which
one of the dialects drops them. -/
structure IsShared (side : Json) : Prop where
  names : ∀ name ∈ side.names, name ∈ sharedNames
  networks : (labels side "network_ids").Nodup
  addresses : (labels side "ips").Nodup

/-- What the fields say that both dialects have. -/
def sharedSide (side : Json) : Side where
  target := text? side "matching_target"
  networks := labels side "network_ids"
  addresses := labels side "ips"
  macs := []
  domains := labels side "web_domains"
  apps := []
  appCategories := []
  zone := text? side "zone_id"
  port := label? side "port"
  invertNetworks := isOn side "match_opposite_networks"
  invertAddresses := isOn side "match_opposite_ips"
  invertPorts := isOn side "match_opposite_ports"

variable {groups : GroupTable} {side : Json}

theorem IsShared.get_eq_none (h : IsShared side) {name : String} (hname : name ∉ sharedNames) :
    side.get? name = none :=
  Json.get_eq_none fun hmem => hname (h.names name hmem)

/-- Pushing texts none of which is there yet puts them at the end. -/
theorem pushUnique_of_nodup {list texts : List String} (h : (list ++ texts).Nodup) :
    pushUnique list texts = list ++ texts := by
  induction texts generalizing list with
  | nil => simp [pushUnique]
  | cons text texts ih =>
      have hfresh : text ∉ list := fun hmem =>
        (List.nodup_append.1 h).2.2 text hmem text List.mem_cons_self rfl
      have hrest : ((list ++ [text]) ++ texts).Nodup := by
        rw [List.append_assoc]
        exact h
      have hstep : pushUnique list (text :: texts) = pushUnique (list ++ [text]) texts := by
        simp [pushUnique, hfresh]
      rw [hstep, ih hrest, List.append_assoc]
      rfl

theorem policySide_eq (h : IsShared side) : policySide groups side = sharedSide side := by
  rw [policySide]
  split
  · have hgroup : text? side "ip_group_id" = none := by
      rw [text?, h.get_eq_none (by decide)]
    have hmacs : labels side "client_macs" = [] := by
      rw [labels, h.get_eq_none (by decide)]
    have happs : integers side "app_ids" = [] := by
      rw [integers, rows, h.get_eq_none (by decide)]
      rfl
    have hcategories : integers side "app_category_ids" = [] := by
      rw [integers, rows, h.get_eq_none (by decide)]
      rfl
    have hport : policyPort? groups side = label? side "port" := by
      rw [policyPort?, text?, h.get_eq_none (by decide)]
      rfl
    rw [hgroup, hmacs, happs, hcategories, hport]
    rfl
  · next hobject =>
    cases side with
    | object fields => exact absurd rfl hobject
    | null | bool _ | number _ | string _ | array _ => rfl

/-- The side of a flat row whose fields are found under longer names. -/
theorem flatSide_eq (h : IsShared side) {row : Json} {short : String}
    (hget : ∀ name, row.get? (short ++ "_" ++ name) = side.get? name) :
    flatSide groups row short = sharedSide side := by
  have htext : ∀ name, text? row (short ++ "_" ++ name) = text? side name := fun name => by
    rw [text?, text?, hget]
  have hlabel : ∀ name, label? row (short ++ "_" ++ name) = label? side name := fun name => by
    rw [label?, label?, hget]
  have hlabels : ∀ name, labels row (short ++ "_" ++ name) = labels side name := fun name => by
    rw [labels, labels, hget]
  have hon : ∀ name, isOn row (short ++ "_" ++ name) = isOn side name := fun name => by
    rw [isOn, isOn, flag?, flag?, hget]
  have hone : ∀ name, name ∉ sharedNames → label? side name = none := fun name hname => by
    rw [label?, h.get_eq_none hname, Option.bind_none]
  have hmany : ∀ name, name ∉ sharedNames → labels side name = [] := fun name hname => by
    rw [labels, h.get_eq_none hname]
  have hnetworks : pushUnique [] (labels side "network_ids") = labels side "network_ids" :=
    pushUnique_of_nodup h.networks
  have haddresses : pushUnique [] (labels side "ips") = labels side "ips" :=
    pushUnique_of_nodup h.addresses
  simp only [flatSide, htext, hlabel, hlabels, hon, hone "network_id" (by decide),
    hone "networkconf_id" (by decide), hone "address" (by decide), hone "mac_address" (by decide),
    hmany "mac_addresses" (by decide), hmany "firewallgroup_ids" (by decide), List.foldl_cons,
    List.foldl_nil, hnetworks, haddresses]
  rfl

/-! ## Rows -/

/-- The names of fields that belong to no side and that both dialects read in the same way. -/
def commonNames : List String :=
  ["_id", "id", "name", "action", "enabled", "predefined", "protocol", "connection_state_type",
    "connection_states", "state_new", "state_established", "state_related", "state_invalid",
    "hit_count"]

/-- What both dialects read in the same way depends on these fields alone. -/
theorem rule_congr {row other : Json} (h : ∀ key ∈ commonNames, row.get? key = other.get? key)
    (index : Int) (inverted : Bool) (source destination : Side) (ruleset : Option String) :
    rule? row index inverted source destination ruleset =
      rule? other index inverted source destination ruleset := by
  have hlabel : ∀ key ∈ commonNames, label? row key = label? other key := fun key hkey => by
    rw [label?, label?, h key hkey]
  have htext : ∀ key ∈ commonNames, text? row key = text? other key := fun key hkey => by
    rw [text?, text?, h key hkey]
  have hflag : ∀ key ∈ commonNames, flag? row key = flag? other key := fun key hkey => by
    rw [flag?, flag?, h key hkey]
  have hinteger : integer? row "hit_count" = integer? other "hit_count" := by
    rw [integer?, integer?, h "hit_count" (by decide)]
  have hnames : labels row "connection_states" = labels other "connection_states" := by
    rw [labels, labels, h "connection_states" (by decide)]
  have hswitched : switchedStates row = switchedStates other := by
    refine List.filter_congr fun state hstate => ?_
    have hkeys : ∀ state ∈ connectionStates, "state_" ++ Text.asciiLower state ∈ commonNames := by
      decide
    rw [isOn, isOn, hflag _ (hkeys state hstate)]
  have hid : rowId? row = rowId? other := by
    rw [rowId?, rowId?, hlabel "_id" (by decide), hlabel "id" (by decide)]
  have hstates : states row = states other := by
    rw [states, states, namedStates?, namedStates?, statesOfSwitches, statesOfSwitches, hswitched,
      htext "connection_state_type" (by decide), hnames]
  rw [rule?, rule?, hid, hstates, hinteger, isOn, isOn, htext "name" (by decide),
    htext "action" (by decide), htext "protocol" (by decide), hflag "enabled" (by decide),
    hflag "predefined" (by decide)]

/-- A policy that uses nothing that only one dialect knows. -/
structure IsSharedRow (row : Json) : Prop where
  source : IsShared (nested row "source")
  destination : IsShared (nested row "destination")
  names : ∀ key ∈ row.names,
    key ∉ ["rule_index", "protocol_match_excepted", "ruleset"] ∧ isSideName key = false

/-- **The dialects agree.**  Take a policy whose sides are missing or have only fields that both
dialects know, without repeated entries in their lists, and which itself has no field that only one
of the dialects knows.  Its flat row is read as the same rule, or neither of them is read: whatever
the values of the fields are, and whatever groups there are. -/
theorem flatRule_flattened (groups : GroupTable) {row : Json} (h : IsSharedRow row) :
    flatRule? groups (flattened row) = policyRule? groups row := by
  have hrow : ∀ key ∈ row.names, isSideName key = false := fun key hkey => (h.names key hkey).2
  have hsource : flatSide groups (flattened row) "src" =
      policySide groups (nested row "source") := by
    rw [flatSide_eq h.source fun name => (get_flattened_side hrow name).1, policySide_eq h.source]
  have hdestination : flatSide groups (flattened row) "dst" =
      policySide groups (nested row "destination") := by
    rw [flatSide_eq h.destination fun name => (get_flattened_side hrow name).2,
      policySide_eq h.destination]
  have hstays : ∀ key ∈ commonNames ++ ["index", "match_opposite_protocol", "rule_index",
      "protocol_match_excepted", "ruleset"], (flattened row).get? key = row.get? key := by
    intro key hkey
    have hplain : isSideName key = false ∧ staysPut key = true := by
      revert key
      decide
    exact get_flattened hplain.1 hplain.2
  have hmissing : ∀ key ∈ ["rule_index", "protocol_match_excepted", "ruleset"],
      row.get? key = none := fun key hkey =>
    Json.get_eq_none fun hmem => (h.names key hmem).1 hkey
  have hindex : (integer? (flattened row) "rule_index").or (integer? (flattened row) "index") =
      (integer? row "index").or (integer? row "rule_index") := by
    simp only [integer?, hstays "rule_index" (by decide), hstays "index" (by decide),
      hmissing "rule_index" (by decide), Option.bind_none, Option.none_or, Option.or_none]
  have hinverted : ((flag? (flattened row) "protocol_match_excepted").or
      (flag? (flattened row) "match_opposite_protocol")).getD false =
        isOn row "match_opposite_protocol" := by
    simp only [isOn, flag?, hstays "protocol_match_excepted" (by decide),
      hstays "match_opposite_protocol" (by decide), hmissing "protocol_match_excepted" (by decide),
      Option.none_or]
  have hruleset : text? (flattened row) "ruleset" = none := by
    rw [text?, hstays "ruleset" (by decide), hmissing "ruleset" (by decide)]
  rw [flatRule?, policyRule?, hindex, hinverted, hruleset, hsource, hdestination]
  exact rule_congr (fun key hkey => hstays key (List.mem_append_left _ hkey)) ..

/-- Keeps all but two networks from two addresses, in a policy that was typed in by hand. -/
def handTyped : Json :=
  .object
    [("_id", .int 20), ("action", .string " Drop "), ("index", .string "2001"),
      ("protocol", .string "TCP"), ("enabled", .string "yes"), ("state_new", .nat 1),
      ("source", .object
        [("network_ids", .array [.string " lan", .null, .string "guests"]),
          ("match_opposite_networks", .string "TRUE"), ("port", .bool true)]),
      ("destination", .object
        [("ips", .strings ["10.0.30.5", "10.0.30.6"]), ("port", .int 443),
          ("zone_id", .string " ")])]

theorem flatRule_flattened_handTyped :
    IsSharedRow handTyped ∧ (policyRule? ⟨[]⟩ handTyped).isSome = true ∧
      flatRule? ⟨[]⟩ (flattened handTyped) = policyRule? ⟨[]⟩ handTyped := by
  have hshared : IsSharedRow handTyped :=
    { source := { names := by decide, networks := by decide, addresses := by decide }
      destination := { names := by decide, networks := by decide, addresses := by decide }
      names := by decide }
  exact ⟨hshared, by decide, flatRule_flattened ⟨[]⟩ hshared⟩

end Export

end SiteAudit

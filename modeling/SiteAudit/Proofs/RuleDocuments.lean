import Mathlib.Data.List.Forall2
import SiteAudit.Export.Rules

/-!
# The rows of a document that become rules

A document is a list, an envelope around a list or an object, or a single object.
What its items are has to be told from their fields: a gateway embeds rules, other
devices have none that count, an item that is no device may still embed rules, and
everything else is a rule row itself.  The rows of the second and the third array
of an item are policies, while all others are read in the dialect that their shape
tells.

Reading leaves out the rows without an identifier and changes nothing else about
their number and their order.  The statement names the rows first, without any
reader, and then puts them side by side with the rules.  What carries it is that
both dialects give a rule exactly where there is an identifier, whatever the other
fields of a row hold.

## Main results

* `hasItems_iff` — the items of a document, form by form.
* `RuleRow.map_id_read` — a row gives a rule exactly if it has an identifier.
* `itemRules_eq_filterMap` — the rules of an item are those of its rows.
* `rules_match_rows` — the rules of a document are those of its rows with an
  identifier, one each and in their order.
-/

namespace SiteAudit.Export

variable {groups : GroupTable} {doc row : Json} {found : List Json} {r : Rule}

/-! ## Items -/

/-- The items of a document, by its form. -/
inductive HasItems : Json → List Json → Prop
  | list (found : List Json) : HasItems (.array found) found
  | envelope {fields : List (String × Json)} {found : List Json}
      (h : Json.lookup? "data" fields = some (.array found)) : HasItems (.object fields) found
  | wrapped {fields inner : List (String × Json)}
      (h : Json.lookup? "data" fields = some (.object inner)) :
      HasItems (.object fields) [.object inner]
  | single {fields : List (String × Json)}
      (hlist : ∀ found, Json.lookup? "data" fields ≠ some (.array found))
      (hobject : ∀ inner, Json.lookup? "data" fields ≠ some (.object inner)) :
      HasItems (.object fields) [.object fields]
  | scalar {doc : Json} (hlist : ∀ found, doc ≠ .array found)
      (hobject : ∀ fields, doc ≠ .object fields) : HasItems doc []

theorem hasItems_items (doc : Json) : HasItems doc (items doc) := by
  unfold items
  split
  · exact .list _
  · split
    · exact .envelope ‹_›
    · exact .wrapped ‹_›
    · exact .single ‹_› ‹_›
  · exact .scalar ‹_› ‹_›

theorem HasItems.items_eq (h : HasItems doc found) : items doc = found := by
  cases h with
  | list => rfl
  | envelope h | wrapped h => simp only [items, h]
  | single hlist hobject =>
      rw [items]
      split
      · exact absurd ‹_› (hlist _)
      · exact absurd ‹_› (hobject _)
      · rfl
  | scalar hlist hobject =>
      unfold items
      split
      · exact absurd rfl (hlist _)
      · exact absurd rfl (hobject _)
      · rfl

/-- Every document has the items of its form, and no others. -/
theorem hasItems_iff : HasItems doc found ↔ items doc = found :=
  ⟨HasItems.items_eq, fun h => h ▸ hasItems_items doc⟩

/-! ## Rows -/

/-- The dialects that rule rows are written in. -/
inductive Dialect where
  | flat
  | policy

/-- A row of a document, with the dialect in which it is read. -/
structure RuleRow where
  dialect : Dialect
  row : Json

namespace RuleRow

/-- A row in the dialect that its shape tells. -/
def ofShape (row : Json) : RuleRow := ⟨if isPolicy row then .policy else .flat, row⟩

/-- The rule of a row in its dialect. -/
def read? (groups : GroupTable) (entry : RuleRow) : Option Rule :=
  match entry.dialect with
  | .flat => flatRule? groups entry.row
  | .policy => policyRule? groups entry.row

/-- Whether the row has an identifier under one of the two names. -/
def hasId (entry : RuleRow) : Bool :=
  (label? entry.row "_id").isSome || (label? entry.row "id").isSome

/-- A rule is that of a row, and has its identifier: `_id`, or `id` if there is none. -/
structure Describes (groups : GroupTable) (entry : RuleRow) (r : Rule) : Prop where
  read : entry.read? groups = some r
  id : label? entry.row "_id" = some r.id ∨
    label? entry.row "_id" = none ∧ label? entry.row "id" = some r.id

theorem read_ofShape (groups : GroupTable) (row : Json) :
    (ofShape row).read? groups = rowRule? groups row := by
  cases hshape : isPolicy row <;> simp [ofShape, read?, rowRule?, hshape]

end RuleRow

/-- Whether the item is a device: it has a type and a hardware address. -/
def isDeviceItem (item : Json) : Bool := (text? item "type").isSome && item.has "mac"

/-- Whether the rules of the item are those that it embeds. -/
def holdsRules (item : Json) : Bool :=
  isGatewayItem item || (!isDeviceItem item && embedsRules item)

/-- The rows that an item embeds, array after array. -/
def embeddedRows (item : Json) : List RuleRow :=
  (rows item "firewall_rules").map RuleRow.ofShape ++
    (rows item "policies").map (RuleRow.mk .policy) ++
    (rows item "firewall_policies").map (RuleRow.mk .policy)

/-- The rows of an item: those it embeds, none of a device, or the item itself. -/
def ruleRows (item : Json) : List RuleRow :=
  if holdsRules item then embeddedRows item
  else if isDeviceItem item then []
  else [RuleRow.ofShape item]

/-! ## From rows to rules -/

theorem map_id_rule {index : Int} {inverted : Bool} {source destination : Side}
    {ruleset : Option String} :
    (rule? row index inverted source destination ruleset).map Rule.id = rowId? row := by
  rw [rule?, Option.map_map]
  exact Option.map_id'

/-- A row gives a rule exactly if it has an identifier, and the rule has the same one. -/
theorem RuleRow.map_id_read (groups : GroupTable) (entry : RuleRow) :
    (entry.read? groups).map Rule.id = rowId? entry.row := by
  obtain ⟨dialect, row⟩ := entry
  cases dialect with
  | flat => exact map_id_rule
  | policy => exact map_id_rule

theorem RuleRow.isSome_read (groups : GroupTable) (entry : RuleRow) :
    (entry.read? groups).isSome = entry.hasId := by
  rw [← Option.isSome_map, map_id_read, rowId?, Option.isSome_or, hasId]

theorem RuleRow.describes_of_read {entry : RuleRow} (h : entry.read? groups = some r) :
    entry.Describes groups r := by
  have hid : rowId? entry.row = some r.id := by
    rw [← map_id_read groups, h, Option.map_some]
  exact ⟨h, Option.or_eq_some_iff.1 hid⟩

theorem embeddedRules_eq_filterMap (groups : GroupTable) (item : Json) :
    embeddedRules groups item = (embeddedRows item).filterMap (RuleRow.read? groups) := by
  have hshape : RuleRow.read? groups ∘ RuleRow.ofShape = rowRule? groups :=
    funext (RuleRow.read_ofShape groups)
  have hpolicy : RuleRow.read? groups ∘ RuleRow.mk .policy = policyRule? groups := rfl
  simp only [embeddedRules, embeddedRows, List.filterMap_append, List.filterMap_map, hshape,
    hpolicy]

theorem rowRule_eq_filterMap (groups : GroupTable) (item : Json) :
    (rowRule? groups item).toList =
      [RuleRow.ofShape item].filterMap (RuleRow.read? groups) := by
  rw [← RuleRow.read_ofShape]
  cases hread : (RuleRow.ofShape item).read? groups with
  | none =>
      rw [List.filterMap_cons_none hread]
      rfl
  | some r =>
      rw [List.filterMap_cons_some hread]
      rfl

/-- The rules of an item are those of its rows. -/
theorem itemRules_eq_filterMap (groups : GroupTable) (item : Json) :
    itemRules groups item = (ruleRows item).filterMap (RuleRow.read? groups) := by
  have hdevice : ((text? item "type").isSome && item.has "mac") = isDeviceItem item := rfl
  rw [itemRules, ruleRows, holdsRules, hdevice, embeddedRules_eq_filterMap, rowRule_eq_filterMap]
  -- A gateway may pass for a device too, so all combinations of the three tests are looked at.
  cases isGatewayItem item <;> cases isDeviceItem item <;> cases embedsRules item <;> rfl

theorem rules_eq_filterMap (groups : GroupTable) (doc : Json) :
    rules groups doc = ((items doc).flatMap ruleRows).filterMap (RuleRow.read? groups) := by
  rw [rules, List.filterMap_flatMap]
  exact congrArg (fun f => (items doc).flatMap f) (funext (itemRules_eq_filterMap groups))

/-- Rows and the rules that are read from them stand side by side. -/
theorem forall₂_describes (groups : GroupTable) (entries : List RuleRow) :
    List.Forall₂ (RuleRow.Describes groups) (entries.filter RuleRow.hasId)
      (entries.filterMap (RuleRow.read? groups)) := by
  induction entries with
  | nil => exact .nil
  | cons entry entries ih =>
      have hsome := RuleRow.isSome_read groups entry
      cases hread : entry.read? groups with
      | none =>
          rw [hread, Option.isSome_none] at hsome
          rw [List.filter_cons_of_neg (by simp [← hsome]), List.filterMap_cons_none hread]
          exact ih
      | some r =>
          rw [hread, Option.isSome_some] at hsome
          rw [List.filter_cons_of_pos hsome.symm, List.filterMap_cons_some hread]
          exact .cons (RuleRow.describes_of_read hread) ih

/-! ## Summary -/

/-- **Reading rules loses nothing and doubles nothing.**  Every document has items, by its form.
Their rows with an identifier and the rules of the document correspond one to one and in order: each
rule is that of its row and has the identifier of the row, whether or not others have it too.  So
the rules of two lists, one after the other, are the rules of the one and then those of the other,
and an envelope around a list has the rules of the list. -/
theorem rules_match_rows (groups : GroupTable) :
    (∀ doc, ∃ found, HasItems doc found) ∧
      (∀ doc found, HasItems doc found →
        List.Forall₂ (RuleRow.Describes groups) ((found.flatMap ruleRows).filter RuleRow.hasId)
          (rules groups doc)) ∧
      (∀ front back, rules groups (.array (front ++ back)) =
        rules groups (.array front) ++ rules groups (.array back)) ∧
      ∀ fields found, Json.lookup? "data" fields = some (.array found) →
        rules groups (.object fields) = rules groups (.array found) := by
  refine ⟨fun doc => ⟨items doc, hasItems_iff.2 rfl⟩, fun doc found h => ?_,
    rules_append groups, fun fields found h => ?_⟩
  · rw [rules_eq_filterMap, hasItems_iff.1 h]
    exact forall₂_describes groups _
  · rw [rules, hasItems_iff.1 (.envelope h)]
    rfl

/-- A gateway that embeds rules in each of its arrays, among them two with the same identifier
and one without. -/
def gatewayItem : Json := .object
  [("type", .string "UDM "), ("mac", .string "02:00:00:00:00:31"),
    ("firewall_policies", .array [.object [("_id", .string "cloud")]]),
    ("policies", .array [.object [("_id", .string " "), ("id", .string "guests")]]),
    ("firewall_rules", .array [.object [("_id", .string "guests")],
      .object [("name", .string "without an identifier")],
      .object [("_id", .string "cloud"), ("source", .object [])]])]

/-- A switch, whose rules do not count. -/
def switchItem : Json := .object
  [("type", .string "usw"), ("mac", .string "02:00:00:00:00:32"),
    ("firewall_rules", .array [.object [("_id", .string "printers")]])]

/-- A rule of its own, which names a type but is no device. -/
def bareItem : Json := .object [("_id", .string "cameras"), ("type", .string "corporate")]

/-- An envelope around them and a text, which is no row at all. -/
def siteExport : Json := .object
  [("meta", .null), ("data", .array [gatewayItem, switchItem, bareItem, .string "cameras"])]

/-- The rules are those of the gateway, array after array, and then the bare row. -/
theorem rules_match_rows_siteExport :
    let found := [gatewayItem, switchItem, bareItem, .string "cameras"]
    HasItems siteExport found ∧
      List.Forall₂ (RuleRow.Describes ⟨[]⟩) ((found.flatMap ruleRows).filter RuleRow.hasId)
        (rules ⟨[]⟩ siteExport) ∧
      (rules ⟨[]⟩ siteExport).map Rule.id = ["guests", "cloud", "guests", "cloud", "cameras"] ∧
      rules ⟨[]⟩ siteExport = rules ⟨[]⟩ (.array found) := by
  intro found
  have hitems : HasItems siteExport found := .envelope rfl
  obtain ⟨_, hrows, _, henvelope⟩ := rules_match_rows ⟨[]⟩
  exact ⟨hitems, hrows siteExport found hitems, by decide, henvelope _ found rfl⟩

end SiteAudit.Export

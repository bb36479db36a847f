import Mathlib.Data.List.Forall2
import SiteAudit.Proofs.FirstOccurrences
import SiteAudit.Proofs.RuleDocuments

/-!
# The rows of a document that become networks

Networks are listed on their own or in the table of a gateway, and a document may have
both.  A row becomes a network if it has an identifier and is no uplink or tunnel; of
the networks with one identifier the first counts.  An uplink is left out before the
identifiers are compared, so it takes none away from a network that comes later.

What is read from a list is therefore settled from its beginning: more items add
networks at the end, and none of those that were there before changes.

## Main results

* `bringsRows_iff` — the rows of an item, by the fields it has.
* `map_id_network` — which rows become networks, and with which identifiers.
* `networks_first_occurrences` — the networks of a document are its accepted rows at
  the first occurrences of their identifiers.
-/

namespace SiteAudit.Export

variable {item row : Json} {found : List Json}

/-! ## Rows -/

/-- The rows of networks that an item brings, by the fields it has. -/
inductive BringsRows : Json → List Json → Prop
  | table {item : Json} {found : List Json} (h : item.get? "network_table" = some (.array found)) :
      BringsRows item found
  | unreadable {item value : Json} (h : item.get? "network_table" = some value)
      (hlist : ∀ found, value ≠ .array found) : BringsRows item []
  | device {item : Json} (htable : item.get? "network_table" = none)
      (hmac : item.has "mac" = true) : BringsRows item []
  | itself {item : Json} (htable : item.get? "network_table" = none)
      (hmac : item.has "mac" = false) : BringsRows item [item]

theorem bringsRows_networkRows (item : Json) : BringsRows item (networkRows item) := by
  rw [networkRows, Json.has]
  cases htable : item.get? "network_table" with
  | none =>
      cases hmac : item.has "mac" with
      | false => exact .itself htable hmac
      | true => exact .device htable hmac
  | some value =>
      rw [Option.isSome_some, if_pos rfl, rows, htable]
      split
      · next hvalue => exact .table (htable.trans hvalue)
      · next hvalue => exact .unreadable htable fun found heq => hvalue found (congrArg some heq)

theorem BringsRows.networkRows_eq (h : BringsRows item found) : networkRows item = found := by
  cases h with
  | table h => simp only [networkRows, Json.has, rows, h, Option.isSome_some, if_true]
  | unreadable h hlist =>
      simp only [networkRows, Json.has, rows, h, Option.isSome_some, if_true]
      split
      · next hvalue => exact absurd (Option.some.inj hvalue) (hlist _)
      · rfl
  | device htable hmac =>
      rw [networkRows, if_neg (by simp [Json.has, htable]), if_pos hmac]
  | itself htable hmac =>
      rw [networkRows, if_neg (by simp [Json.has, htable]), if_neg (by simp [hmac])]

/-- Every item brings the rows that its fields tell, and no others. -/
theorem bringsRows_iff : BringsRows item found ↔ networkRows item = found :=
  ⟨BringsRows.networkRows_eq, fun h => h ▸ bringsRows_networkRows item⟩

theorem forall₂_bringsRows_iff {brought : List (List Json)} :
    List.Forall₂ BringsRows found brought ↔ found.map networkRows = brought := by
  have hrows : BringsRows = fun item rows => networkRows item = rows := by
    funext item rows
    exact propext bringsRows_iff
  rw [hrows, ← List.forall₂_map_left_iff, List.forall₂_eq_eq_eq]

/-! ## Networks -/

/-- Whether the row is about an uplink or a tunnel. -/
def isUplink (row : Json) : Bool :=
  ((text? row "purpose").map Text.asciiLower).any nonLocalPurposes.contains

/-- A row becomes a network exactly if it has an identifier and is no uplink, and the network has
the same identifier. -/
theorem map_id_network (row : Json) :
    (network? row).map Network.id = if isUplink row then none else rowId? row := by
  unfold network?
  cases rowId? row with
  | none => simp
  | some id =>
      rw [Option.bind_eq_bind, Option.bind_some]
      change (if isUplink row then none else some _ : Option Network).map Network.id = _
      cases isUplink row <;> rfl

/-- The networks of a document, by the rows of its items. -/
theorem networks_eq_firstOfEach (doc : Json) :
    networks doc = firstOfEach Network.id (((items doc).flatMap networkRows).filterMap network?) :=
  keepFirst_eq_firstOfEach _

/-- More items only add networks, whose identifiers are new. -/
theorem networks_append (front back : List Json) :
    networks (.array (front ++ back)) =
      networks (.array front) ++
        (networks (.array back)).filter fun n =>
          n.id ∉ (networks (.array front)).map Network.id := by
  have hitems : items (.array (front ++ back)) = items (.array front) ++ items (.array back) := rfl
  rw [networks_eq_firstOfEach, hitems, List.flatMap_append, List.filterMap_append,
    firstOfEach_append, ← networks_eq_firstOfEach, ← networks_eq_firstOfEach]
  refine congrArg (networks (.array front) ++ ·) (List.filter_congr fun n _ => ?_)
  rw [Bool.eq_iff_iff, Bool.not_eq_true', decide_eq_true_iff, networks_eq_firstOfEach,
    mem_keys_firstOfEach, List.any_eq_false, List.mem_map]
  simp

/-! ## Summary -/

/-- **Of the networks with one identifier the first counts.**  Every document has items, by its
form, and every item brings rows, by its fields.  The networks of the document are the rows that
become networks, item after item, at the first occurrences of their identifiers; a row becomes one
if it has an identifier and is no uplink.  So the identifiers are distinct, and when two lists are
read one after the other, the networks of the first list come first and as they were, and then those
of the second whose identifiers are not among them. -/
theorem networks_first_occurrences :
    (∀ doc, ∃ found brought, HasItems doc found ∧ List.Forall₂ BringsRows found brought) ∧
      (∀ doc found brought, HasItems doc found → List.Forall₂ BringsRows found brought →
        networks doc = firstOfEach Network.id (brought.flatten.filterMap network?)) ∧
      (∀ row, (network? row).map Network.id = if isUplink row then none else rowId? row) ∧
      (∀ doc, ((networks doc).map Network.id).Nodup) ∧
      ∀ front back, networks (.array (front ++ back)) =
        networks (.array front) ++
          (networks (.array back)).filter fun n =>
            n.id ∉ (networks (.array front)).map Network.id := by
  refine ⟨fun doc => ?_, fun doc found brought hitems hrows => ?_, map_id_network, fun doc => ?_,
    networks_append⟩
  · exact ⟨items doc, (items doc).map networkRows, hasItems_iff.2 rfl,
      forall₂_bringsRows_iff.2 rfl⟩
  · rw [networks_eq_firstOfEach, hasItems_iff.1 hitems, ← forall₂_bringsRows_iff.1 hrows]
    rfl
  · rw [networks_eq_firstOfEach]
    exact nodup_keys_firstOfEach _

/-- The table of a gateway: an uplink with the identifier of a network, the network, and two rows
that come too late or have no identifier. -/
def gatewayRows : List Json :=
  [.object [("_id", .int 7), ("purpose", .string "WAN")],
    .object [("_id", .string " 7 "), ("name", .string "Cameras"), ("vlan", .string "30")],
    .object [("_id", .null), ("id", .int 7), ("name", .string "Doorbells")],
    .object [("name", .string "Printers")]]

/-- A gateway with its table and a switch without one. -/
def deviceItems : List Json :=
  [.object [("mac", .string "02:00:00:00:00:41"), ("network_table", .array gatewayRows)],
    .object [("mac", .string "02:00:00:00:00:42"), ("_id", .string "switch")]]

/-- Rows that are items themselves, one of which has the identifier of the gateway's network, and an
item whose table cannot be read. -/
def networkItems : List Json :=
  [.object [("id", .string "7"), ("name", .string "Storage")],
    .object [("_id", .string "guests"), ("purpose", .string "guest")],
    .object [("_id", .string "lab"), ("network_table", .string "none")]]

/-- The network of the gateway stays the first, and of the rows only one adds another. -/
theorem networks_first_occurrences_gateway :
    HasItems (.array (deviceItems ++ networkItems)) (deviceItems ++ networkItems) ∧
      List.Forall₂ BringsRows (deviceItems ++ networkItems)
        ([gatewayRows, []] ++ [[networkItems[0]], [networkItems[1]], []]) ∧
      networks (.array (deviceItems ++ networkItems)) =
        firstOfEach Network.id
          ((gatewayRows ++ [networkItems[0], networkItems[1]]).filterMap network?) ∧
      (networks (.array deviceItems)).map Network.id = ["7"] ∧
      (networks (.array networkItems)).map Network.id = ["7", "guests"] ∧
      (networks (.array (deviceItems ++ networkItems))).map Network.id = ["7", "guests"] := by
  have hitems : HasItems (.array (deviceItems ++ networkItems)) (deviceItems ++ networkItems) :=
    .list _
  have hrows : List.Forall₂ BringsRows (deviceItems ++ networkItems)
      ([gatewayRows, []] ++ [[networkItems[0]], [networkItems[1]], []]) :=
    .cons (.table rfl) <| .cons (.device rfl rfl) <| .cons (.itself rfl rfl) <|
      .cons (.itself rfl rfl) <| .cons (.unreadable rfl fun _ => Json.noConfusion) .nil
  obtain ⟨_, hnetworks, _, _, _⟩ := networks_first_occurrences
  -- The number is written by a recursion that only the kernel unfolds.
  exact ⟨hitems, hrows, hnetworks _ _ _ hitems hrows, by decide +kernel, by decide,
    by decide +kernel⟩

end SiteAudit.Export

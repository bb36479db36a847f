import SiteAudit.Text.Blank
import SiteAudit.Text.Pieces

/-!
# Firewall groups

A rule can refer to a named list of ports or addresses by its id. A table
keeps the last group given under each id. A reference resolves to the
members that are not blank; a group of the wrong type, an unknown one, and
one without such members do not resolve.

## Main results

* `get_ofList` — a table answers with the last group of an id.
* `members_eq_some_iff` — what a reference resolves to.
-/

namespace SiteAudit

/-- What a group lists. -/
inductive GroupType where
  | port
  | address
  | ipv6Address
deriving Repr, DecidableEq

namespace GroupType

/-- The identifier of a type of group. -/
def id : GroupType → String
  | .port => "port-group"
  | .address => "address-group"
  | .ipv6Address => "ipv6-address-group"

/-- The type with this identifier. -/
def ofId? (id : String) : Option GroupType :=
  [port, address, ipv6Address].find? (·.id == id)

/-- Whether the group lists addresses. -/
def isAddress : GroupType → Bool
  | .port => false
  | .address => true
  | .ipv6Address => true

end GroupType

/-- A named list of ports or addresses. -/
structure Group where
  id : String
  name : String
  type : GroupType
  members : List String
deriving Repr, DecidableEq

/-- The groups of a site, one for each id, in the order of their first mention. -/
structure GroupTable where
  groups : List Group
deriving Repr, DecidableEq

namespace GroupTable

/-- A group put into a list, in the place of one with the same id. -/
def put (group : Group) : List Group → List Group
  | [] => [group]
  | g :: rest => if g.id = group.id then group :: rest else g :: put group rest

/-- The table of a list of groups. -/
def ofList (groups : List Group) : GroupTable :=
  ⟨groups.foldl (fun table group => put group table) []⟩

/-- How many groups there are. -/
def size (table : GroupTable) : Nat := table.groups.length

/-- The group of an id. -/
def get? (table : GroupTable) (id : String) : Option Group := table.groups.find? (·.id == id)

/-- The members that are not blank, of a group whose type is accepted. -/
def members? (table : GroupTable) (accepts : GroupType → Bool) (id : String) :
    Option (List String) := do
  let group ← table.get? id
  if accepts group.type then
    let members := group.members.filterMap Text.nonBlank?
    if members.isEmpty then none else some members
  else none

/-- The port specification that a port group stands for. -/
def ports? (table : GroupTable) (id : String) : Option String :=
  (table.members? (· == .port) id).map (Text.joinWith ",")

/-- The entries that an address group stands for. -/
def addresses? (table : GroupTable) (id : String) : Option (List String) :=
  table.members? GroupType.isAddress id

/-! ## Laws -/

theorem find_put (group : Group) (groups : List Group) (id : String) :
    (put group groups).find? (·.id == id) =
      if group.id = id then some group else groups.find? (·.id == id) := by
  induction groups with
  | nil => by_cases h : group.id = id <;> simp [put, h]
  | cons g rest ih =>
    by_cases hg : g.id = group.id
    · by_cases h : group.id = id
      · simp [put, hg, h]
      · simp [put, hg, h]
    · by_cases h : group.id = id
      · subst h
        simp [put, hg, ih]
      · simp [put, hg, h, ih, List.find?_cons]

/-- A table answers with the last group of an id. -/
theorem get_ofList (groups : List Group) (id : String) :
    (ofList groups).get? id = groups.reverse.find? (·.id == id) := by
  suffices h : ∀ table : List Group,
      (groups.foldl (fun table group => put group table) table).find? (·.id == id) =
        (groups.reverse.find? (·.id == id)).or (table.find? (·.id == id)) by
    simpa [ofList, get?] using h []
  induction groups with
  | nil => simp
  | cons g rest ih =>
    intro table
    rw [List.foldl_cons, ih, find_put, List.reverse_cons, List.find?_append]
    by_cases h : g.id = id <;> simp [h]

/-- A reference resolves to the members that are not blank, if the type is accepted and there are
any. -/
theorem members_eq_some_iff {table : GroupTable} {accepts : GroupType → Bool} {id : String}
    {found : List String} :
    table.members? accepts id = some found ↔
      ∃ group, table.get? id = some group ∧ accepts group.type = true ∧
        group.members.filterMap Text.nonBlank? = found ∧ found ≠ [] := by
  rw [members?]
  cases table.get? id with
  | none => simp
  | some group =>
    rw [Option.bind_eq_bind, Option.bind_some]
    generalize hmembers : group.members.filterMap Text.nonBlank? = members
    constructor
    · intro h
      split at h
      · next haccepts =>
        cases members with
        | nil => simp at h
        | cons first rest =>
          simp only [List.isEmpty_cons, Bool.false_eq_true, if_false, Option.some.injEq] at h
          exact ⟨group, rfl, haccepts, hmembers.trans h, by simp [← h]⟩
      · cases h
    · rintro ⟨other, hother, haccepts, rfl, hne⟩
      cases hother
      rw [if_pos haccepts, ← hmembers]
      simpa using hne

end GroupTable

end SiteAudit

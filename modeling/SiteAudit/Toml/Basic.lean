/-!
# TOML values

What a TOML document says, and the rules by which its lines add up to one
table.

Each table has an origin: a header of its own, a longer header that passes
through it, or a dotted name. Only a table that longer headers passed
through can still get its own header, and dotted names add only to tables
that dotted names made. No name is given a value twice.

## Main results

* `lookup_setEntry` — an entry that is set is found.
-/

namespace SiteAudit.Toml

/-- A value. Numbers other than whole ones, and dates and times, are kept as they are written. -/
inductive Value where
  | string (text : String)
  | integer (value : Int)
  | float (text : String)
  | boolean (value : Bool)
  | datetime (text : String)
  | array (items : List Value)
  | table (entries : List (String × Value))
deriving Repr

/-- The value that a list of entries has under a name. -/
def lookup (name : String) : List (String × α) → Option α
  | [] => none
  | (other, a) :: rest => if other = name then some a else lookup name rest

/-- The entries with one set: in its place if the name is there, else at the end. -/
def setEntry (name : String) (a : α) : List (String × α) → List (String × α)
  | [] => [(name, a)]
  | (other, b) :: rest =>
    if other = name then (name, a) :: rest else (other, b) :: setEntry name a rest

/-- An entry that is set is found. -/
theorem lookup_setEntry (name : String) (a : α) (entries : List (String × α)) :
    lookup name (setEntry name a entries) = some a := by
  induction entries with
  | nil => simp [setEntry, lookup]
  | cons entry rest ih => by_cases h : entry.1 = name <;> simp [setEntry, lookup, h, ih]

/-! ## Documents -/

/-- What one line of a document says. -/
inductive Statement where
  /-- A value for a name in the current table. -/
  | entry (path : List String) (value : Value)
  /-- The header of a table. -/
  | table (path : List String)
  /-- The header of one more table of an array. -/
  | arrayItem (path : List String)

/-- Where a table comes from. -/
inductive Origin where
  | header
  | longerHeader
  | dottedName
deriving DecidableEq

/-- A document under construction. -/
inductive Node where
  | value (v : Value)
  | table (origin : Origin) (entries : List (String × Node))
  /-- An array of tables, of which the last one is under construction. -/
  | tables (done : List (List (String × Node))) (last : List (String × Node))

/-- The entries of a table under construction. -/
abbrev Entries := List (String × Node)

/--
The entries of a table, changed at the end of a path. Tables on the way that are not there are
made. A dotted name does not pass through a table with a header.
-/
def changeAt (dotted : Bool) (change : Origin → Entries → Option Entries) :
    List String → Origin → Entries → Option Entries
  | [], origin, entries => change origin entries
  | name :: path, _, entries =>
    match lookup name entries with
    | none => do
      let origin : Origin := if dotted then .dottedName else .longerHeader
      some (setEntry name (.table origin (← changeAt dotted change path origin [])) entries)
    | some (.value _) => none
    | some (.tables done last) => do
      some (setEntry name (.tables done (← changeAt dotted change path .header last)) entries)
    | some (.table origin inner) =>
      if dotted && origin == .header then none
      else do
        some (setEntry name (.table origin (← changeAt dotted change path origin inner)) entries)

/-- The change that adds a value; dotted names and plain ones do not mix in one table. -/
def addValue (isDotted : Bool) (name : String) (v : Value) (origin : Origin) (entries : Entries) :
    Option Entries :=
  if (origin == .dottedName) != isDotted || (lookup name entries).isSome then none
  else some (setEntry name (.value v) entries)

/-- The change that adds an entry with a dotted or a plain name. -/
def addEntry (path : List String) (v : Value) (origin : Origin) (entries : Entries) :
    Option Entries :=
  match path.getLast? with
  | none => none
  | some name =>
    changeAt true (addValue (1 < path.length) name v) path.dropLast origin entries

/-- The change that opens a table. -/
def openTable (name : String) (_ : Origin) (entries : Entries) : Option Entries :=
  match lookup name entries with
  | none => some (setEntry name (.table .header []) entries)
  | some (.table .longerHeader inner) => some (setEntry name (.table .header inner) entries)
  | _ => none

/-- The change that opens one more table of an array. -/
def openItem (name : String) (_ : Origin) (entries : Entries) : Option Entries :=
  match lookup name entries with
  | none => some (setEntry name (.tables [] []) entries)
  | some (.tables done last) => some (setEntry name (.tables (done ++ [last]) []) entries)
  | _ => none

/-- A change at the end of a header. -/
def atHeader (change : String → Origin → Entries → Option Entries) (path : List String)
    (entries : Entries) : Option Entries :=
  path.getLast?.bind fun name => changeAt false (change name) path.dropLast .header entries

/-- What the statements add up to: the entries so far, and the path of the current table. -/
def assemble : List Statement → List String → Entries → Option Entries
  | [], _, entries => some entries
  | .entry path v :: rest, current, entries => do
    assemble rest current (← changeAt false (addEntry path v) current .header entries)
  | .table path :: rest, _, entries => do
    assemble rest path (← atHeader openTable path entries)
  | .arrayItem path :: rest, _, entries => do
    assemble rest path (← atHeader openItem path entries)

mutual

/-- A part of a document as a value. -/
def Node.toValue : Node → Value
  | .value v => v
  | .table _ entries => .table (entryValues entries)
  | .tables done last => .array (tableValues done ++ [.table (entryValues last)])

/-- The entries of a table as values. -/
def entryValues : List (String × Node) → List (String × Value)
  | [] => []
  | (name, node) :: rest => (name, node.toValue) :: entryValues rest

/-- Tables as values. -/
def tableValues : List (List (String × Node)) → List Value
  | [] => []
  | entries :: rest => .table (entryValues entries) :: tableValues rest

end

/-- The table of a document, unless its statements contradict each other. -/
def ofStatements? (statements : List Statement) : Option (List (String × Value)) :=
  (assemble statements [] []).map entryValues

/-- The table of a list of names and values in braces. -/
def inlineTable? (pairs : List (List String × Value)) : Option Value :=
  (ofStatements? (pairs.map fun (path, v) => .entry path v)).map .table

end SiteAudit.Toml

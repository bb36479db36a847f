import SiteAudit.Json.Basic
import SiteAudit.Net.Block
import SiteAudit.Text.Sorted

/-!
# Reading stored records

Unlike exported documents, stored values are read strictly: one wrong type,
one number out of range, and there is no value. A record is stored as an
object with its fields by name, in any order and among others; an array with
all its fields in their order is also accepted.

## Main results

* `record_named` — the fields of an object are looked up by name.
-/

namespace SiteAudit.Record

/-- Where the fields of a record are found. -/
inductive Fields where
  /-- By name, in an object. -/
  | named (fields : List (String × Json))
  /-- By position, in what is left of an array. -/
  | positional (rest : List Json)

/-- A reader of fields, one after the other. -/
abbrev FieldReader (α : Type) := StateT Fields Option α

/-- The next field: `none` inside if an object has no field of that name. -/
def next (name : String) : FieldReader (Option Json)
  | .named fields => some (Json.lookup? name fields, .named fields)
  | .positional (value :: rest) => some (some value, .positional rest)
  | .positional [] => none

/-- A field that has to be there. -/
def required (name : String) (read : Json → Option α) : FieldReader α := do
  match ← next name with
  | some value => read value
  | none => failure

/-- A value, or `null` for none. -/
def nullable (read : Json → Option α) : Json → Option (Option α)
  | .null => some none
  | value => (read value).map some

/-- A field that may be `null` or, in an object, missing. -/
def optional (name : String) (read : Json → Option α) : FieldReader (Option α) := do
  match ← next name with
  | some value => nullable read value
  | none => pure none

/-- The last field of a record, which has a default where it is missing. -/
def withDefault (name : String) (default : α) (read : Json → Option α) : FieldReader α
  | .positional [] => some (default, .positional [])
  | source => (next name source).bind fun (value, rest) =>
    (value.elim (some default) read).map (·, rest)

/-- Whether nothing is left: objects may have other fields, arrays may not. -/
def Fields.isUsedUp : Fields → Bool
  | .named _ => true
  | .positional rest => rest.isEmpty

/-- What a reader makes of the fields, if it uses them up. -/
def finish (reader : FieldReader α) (source : Fields) : Option α :=
  (reader source).bind fun (a, rest) => if rest.isUsedUp then some a else none

/-- A record. -/
def record (reader : FieldReader α) : Json → Option α
  | .object fields => finish reader (.named fields)
  | .array items => finish reader (.positional items)
  | _ => none

/-! ## Values -/

/-- A text. -/
def text? : Json → Option String
  | .string s => some s
  | _ => none

/-- A truth value. -/
def bool? : Json → Option Bool
  | .bool b => some b
  | _ => none

/-- A whole number of 64 bits with a sign. -/
def int? : Json → Option Int
  | .number n => n.signed?
  | _ => none

/-- A whole number from zero to a limit. -/
def nat? (limit : Nat) : Json → Option Nat
  | .number (.integer (.ofNat n)) => if n ≤ limit then some n else none
  | _ => none

/-- A whole number of 16 bits. -/
def uint16? (value : Json) : Option UInt16 := (nat? 65535 value).map UInt16.ofNat

/-- A whole number of 32 bits. -/
def uint32? (value : Json) : Option UInt32 := (nat? (UInt32.size - 1) value).map UInt32.ofNat

/-- A whole number of 64 bits without a sign. -/
def uint64? (value : Json) : Option Nat := nat? (UInt64.size - 1) value

/-- A list of values. -/
def list? (read : Json → Option α) : Json → Option (List α)
  | .array items => items.mapM read
  | _ => none

/-- The name of one of several cases: a text, or an object whose only field is `null`. -/
def caseName? : Json → Option String
  | .string name => some name
  | .object [(name, .null)] => some name
  | _ => none

/-- An address by itself. -/
def address? (value : Json) : Option Net.Address := (text? value).bind Net.Address.parse?

/-- A block in slash notation. -/
def block? (value : Json) : Option Net.Block := (text? value).bind Net.Block.parse?

/-- A field whose value is a text. -/
def textField? (field : String × Json) : Option (String × String) :=
  (text? field.2).map (field.1, ·)

/-- An object whose fields are texts. -/
def textMap? : Json → Option Text.TextMap
  | .object fields => (fields.mapM textField?).map .ofList
  | _ => none

/-! ## Laws -/

/-- The fields of an object are looked up by name. -/
theorem record_named {reader : FieldReader α} {fields : List (String × Json)} :
    record reader (.object fields) = finish reader (.named fields) := rfl

theorem next_named (name : String) (fields : List (String × Json)) :
    next name (.named fields) = some (Json.lookup? name fields, .named fields) := rfl

end SiteAudit.Record

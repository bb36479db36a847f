import SiteAudit.Json.Double

/-!
# JSON values

The documents a controller exports, and the structured answers this library
gives. A number is a whole number of at most 64 bits or a double; a document
never mixes the two up, so `1` and `1.0` are different values.
-/

namespace SiteAudit

namespace Json

/-- A JSON number: whole, or binary floating point. -/
inductive Number where
  | integer (value : Int)
  | double (value : Double)
deriving Repr, DecidableEq

/-- The whole number, if it is one and fits in 64 bits with a sign. -/
def Number.signed? : Number → Option Int
  | .integer n => if Numeral.isSigned64 n then some n else none
  | .double _ => none

/-- A number as it is written. -/
def Number.text : Number → String
  | .integer n => Numeral.signedDecimal n
  | .double x => x.text

end Json

/-- A JSON value. The fields of an object keep the order in which they are to be written. -/
inductive Json where
  | null
  | bool (value : Bool)
  | number (value : Json.Number)
  | string (value : String)
  | array (items : List Json)
  | object (fields : List (String × Json))
deriving Repr

namespace Json

/-- A whole number as a value. -/
def int (n : Int) : Json := .number (.integer n)

/-- A natural number as a value. -/
def nat (n : Nat) : Json := .number (.integer n)

/-- The value, or `null` where there is none. -/
def ofOption (f : α → Json) : Option α → Json
  | some a => f a
  | none => .null

/-- The values of a list, in its order. -/
def list (f : α → Json) (items : List α) : Json := .array (items.map f)

/-- The texts of a list, in its order. -/
def strings (texts : List String) : Json := list .string texts

/-- The value that an association list holds under a key. -/
def lookup? (key : String) : List (String × Json) → Option Json
  | [] => none
  | (name, value) :: rest => if name = key then some value else lookup? key rest

/-- The field of an object; other values have none. -/
def get? (key : String) : Json → Option Json
  | .object fields => lookup? key fields
  | _ => none

/-- Whether a value is an object with this field. -/
def has (key : String) (doc : Json) : Bool := (doc.get? key).isSome

/-- Whether a value is an object. -/
def isObject : Json → Bool
  | .object _ => true
  | _ => false

/-- The fields with one set: in its place if the key is there already, else at the end. -/
def put (key : String) (value : Json) : List (String × Json) → List (String × Json)
  | [] => [(key, value)]
  | (name, old) :: rest =>
    if name = key then (key, value) :: rest else (name, old) :: put key value rest

@[simp] theorem lookup_put_self (key : String) (value : Json) (fields : List (String × Json)) :
    lookup? key (put key value fields) = some value := by
  induction fields with
  | nil => simp [put, lookup?]
  | cons field rest ih =>
    by_cases h : field.1 = key <;> simp [put, lookup?, h, ih]

theorem lookup_put_of_ne {key other : String} (h : key ≠ other) (value : Json)
    (fields : List (String × Json)) :
    lookup? other (put key value fields) = lookup? other fields := by
  induction fields with
  | nil => simp [put, lookup?, h]
  | cons field rest ih =>
    by_cases hkey : field.1 = key
    · simp [put, lookup?, hkey, h]
    · simp [put, lookup?, hkey, ih]

end Json

end SiteAudit

import SiteAudit.Json.Basic
import SiteAudit.Text.Ascii
import SiteAudit.Text.Blank

/-!
# Fields of exported documents

Exports differ between controller versions, so their fields are read with
much patience: a number may be given as text, a list may be given as its only
entry, and whatever cannot be understood counts as missing. Nothing here
fails.

## Main results

* `nonBlank_eq_some` — a text that is read is not empty and has no blanks
  around it.
-/

namespace SiteAudit.Export

/-- The items of a document: an array, the `data` of an envelope, or a single object. -/
def items : Json → List Json
  | .array found => found
  | .object fields =>
    match Json.lookup? "data" fields with
    | some (.array found) => found
    | some (.object inner) => [.object inner]
    | _ => [.object fields]
  | _ => []

/-- The elements of an array field, or none. -/
def rows (doc : Json) (key : String) : List Json :=
  match doc.get? key with
  | some (.array found) => found
  | _ => []

/-- A text without blanks around it, unless nothing is left. Only texts count. -/
def text? (doc : Json) (key : String) : Option String :=
  match doc.get? key with
  | some (.string s) => Text.nonBlank? s
  | _ => none

/-- A value as an identifier: a text that is not blank, or a number as it is written. -/
def asLabel? : Json → Option String
  | .string s => Text.nonBlank? s
  | .number n => some n.text
  | _ => none

/-- A field as an identifier. -/
def label? (doc : Json) (key : String) : Option String := (doc.get? key).bind asLabel?

/-- The identifier of a row: `_id`, or else `id`. -/
def rowId? (doc : Json) : Option String := (label? doc "_id").or (label? doc "id")

/-- A switch: a truth value, a word for one, or a whole number. -/
def flag? (doc : Json) (key : String) : Option Bool :=
  match doc.get? key with
  | some (.bool b) => some b
  | some (.string s) =>
    let word := Text.asciiLower (Text.trim s)
    if word ∈ ["true", "yes", "1"] then some true
    else if word ∈ ["false", "no", "0"] then some false
    else none
  | some (.number n) => n.signed?.map (· != 0)
  | _ => none

/-- A switch that is off where it is missing. -/
def isOn (doc : Json) (key : String) : Bool := (flag? doc key).getD false

/-- A value as a whole number of 64 bits: a number or a numeral. -/
def asInteger? : Json → Option Int
  | .number n => n.signed?
  | .string s => Numeral.signed? (Text.trimChars s.toList)
  | _ => none

/-- A field as a whole number. -/
def integer? (doc : Json) (key : String) : Option Int := (doc.get? key).bind asInteger?

/-- A list of identifiers; a single text is a list of one. -/
def labels (doc : Json) (key : String) : List String :=
  match doc.get? key with
  | some (.array found) => found.filterMap asLabel?
  | some (.string s) => (Text.nonBlank? s).toList
  | _ => []

/-- The whole numbers of an array field. -/
def integers (doc : Json) (key : String) : List Int := (rows doc key).filterMap asInteger?

/-! ## Laws -/

theorem nonBlank_eq_some {s t : String} (h : Text.nonBlank? s = some t) :
    t ≠ "" ∧ Text.trim t = t := by
  rw [Text.nonBlank?] at h
  split at h
  · simp at h
  · next hempty =>
    simp only [Option.some.injEq] at h
    subst h
    exact ⟨by simpa using hempty, Text.trim_trim s⟩

end SiteAudit.Export

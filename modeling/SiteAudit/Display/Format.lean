import SiteAudit.Json.Writer
import SiteAudit.Text.Ascii
import SiteAudit.Yaml.Writer

/-!
# Output formats

A result can be shown in five formats. Three of them write down the same
value and leave nothing out; a table is for reading, and plain text for other
programs. A result therefore has three looks, one of which a format picks.

## Main results

* `parse_id` — every format is found by its own name.
* `printed_eq_empty_iff` — when nothing is printed.
-/

namespace SiteAudit

/-- A format in which results are shown. -/
inductive OutputFormat where
  | table
  | json
  | jsonCompact
  | yaml
  | plain
deriving Repr, DecidableEq

namespace OutputFormat

/-- All formats. -/
def all : List OutputFormat := [table, json, jsonCompact, yaml, plain]

/-- The name of a format. -/
def id : OutputFormat → String
  | table => "table"
  | json => "json"
  | jsonCompact => "json-compact"
  | yaml => "yaml"
  | plain => "plain"

/-- The format with exactly this name. -/
def ofId? (id : String) : Option OutputFormat := all.find? (·.id == id)

/-- The format with this name; ASCII letter case is free. -/
def parse? (text : String) : Option OutputFormat := all.find? fun f => Text.sameAsciiFold f.id text

/-- Every format is found by its own name. -/
theorem parse_id (f : OutputFormat) : ofId? f.id = some f ∧ parse? f.id = some f := by
  cases f <;> decide

end OutputFormat

/-- A result as it looks in a table, as a value and in plain text. -/
structure View where
  table : String
  value : Json
  plain : String

/-- A result in a format. -/
def View.text (v : View) : OutputFormat → String
  | .table => v.table
  | .json => v.value.pretty
  | .jsonCompact => v.value.compact
  | .yaml => Yaml.document v.value
  | .plain => v.plain

/-- What is printed of a text: a line feed follows it, but an empty text is not printed at all. -/
def printed (quiet : Bool) (text : String) : String :=
  if quiet || text.isEmpty then "" else text ++ "\n"

/-- Nothing is printed exactly if that is asked for, or if there is nothing to print. -/
theorem printed_eq_empty_iff {quiet : Bool} {text : String} :
    printed quiet text = "" ↔ quiet = true ∨ text = "" := by
  rw [printed]
  split <;> simp_all

end SiteAudit

import SiteAudit.Json.Basic
import SiteAudit.Yaml.Scalar

/-!
# Writing YAML

Values in block style: one item or field per line, two blanks of indentation
per level. The items of a field stand under its name without further
indentation. Empty lists and objects are written in brackets.
-/

namespace SiteAudit.Yaml

/-- A scalar value; lists and objects are empty here. -/
def leaf (indent : Nat) : Json → String
  | .null => "null"
  | .bool b => if b then "true" else "false"
  | .number n => n.text
  | .string s => scalar indent s
  | .array _ => "[]"
  | .object _ => "\x7b\x7d"

/-- A text that ends its line. -/
def endLine (s : String) : String := if s.toList.getLast?.any isBreak then s else s ++ "\n"

/-- Blanks at the start of a line. -/
def pad (indent : Nat) : String := String.ofList (indentation indent)

mutual

/-- What stands after the name of a field. -/
def afterName (indent : Nat) : Json → String
  | .array (v :: items) => "\n" ++ pad indent ++ blockItems indent (v :: items)
  | .object (field :: fields) =>
    "\n" ++ pad (indent + 2) ++ blockFields (indent + 2) (field :: fields)
  | v => " " ++ endLine (leaf (indent + 2) v)

/-- What stands after the dash of an item. -/
def afterDash (indent : Nat) : Json → String
  | .array (v :: items) => " " ++ blockItems (indent + 2) (v :: items)
  | .object (field :: fields) => " " ++ blockFields (indent + 2) (field :: fields)
  | v => " " ++ endLine (leaf (indent + 2) v)

/-- The items of a list, from the first dash on. -/
def blockItems (indent : Nat) : List Json → String
  | [] => ""
  | [v] => "-" ++ afterDash indent v
  | v :: items => "-" ++ afterDash indent v ++ pad indent ++ blockItems indent items

/-- The fields of an object, from the first name on. -/
def blockFields (indent : Nat) : List (String × Json) → String
  | [] => ""
  | [(name, v)] => scalar indent name ++ ":" ++ afterName indent v
  | (name, v) :: fields =>
    scalar indent name ++ ":" ++ afterName indent v ++ pad indent ++ blockFields indent fields

end

/-- A value as a document. -/
def document : Json → String
  | .array (v :: items) => blockItems 0 (v :: items)
  | .object (field :: fields) => blockFields 0 (field :: fields)
  | v => endLine (leaf 0 v)

end SiteAudit.Yaml

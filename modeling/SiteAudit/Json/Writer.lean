import SiteAudit.Json.Basic

/-!
# Writing JSON

Two layouts: compact, on one line and without any space, and pretty, with
one item per line and two blanks of indentation per level. Both escape the
quote, the backslash and the control characters below U+0020, and nothing
else.
-/

namespace SiteAudit.Json.Writer

/-- A character inside a quoted text. -/
def escaped (c : Char) : List Char :=
  if c = '"' then ['\\', '"']
  else if c = '\\' then ['\\', '\\']
  else if c = '\x08' then ['\\', 'b']
  else if c = '\x0c' then ['\\', 'f']
  else if c = '\n' then ['\\', 'n']
  else if c = '\r' then ['\\', 'r']
  else if c = '\t' then ['\\', 't']
  else if c.toNat < 0x20 then
    ['\\', 'u', '0', '0', Numeral.digitChar (c.toNat / 16), Numeral.digitChar (c.toNat % 16)]
  else [c]

/-- A text in quotes. -/
def quoted (s : String) : String := "\"" ++ String.ofList (s.toList.flatMap escaped) ++ "\""

/-- A scalar value as it is written in both layouts. -/
def scalar : Json → String
  | .null => "null"
  | .bool b => if b then "true" else "false"
  | .number n => n.text
  | .string s => quoted s
  | .array _ => "[]"
  | .object _ => "\x7b\x7d"

mutual

/-- A value on one line. -/
def compact : Json → String
  | .array items => "[" ++ compactItems items ++ "]"
  | .object fields => "\x7b" ++ compactFields fields ++ "\x7d"
  | v => scalar v

/-- Items with commas between them. -/
def compactItems : List Json → String
  | [] => ""
  | [v] => compact v
  | v :: rest => compact v ++ "," ++ compactItems rest

/-- Fields with commas between them. -/
def compactFields : List (String × Json) → String
  | [] => ""
  | [(key, v)] => quoted key ++ ":" ++ compact v
  | (key, v) :: rest => quoted key ++ ":" ++ compact v ++ "," ++ compactFields rest

end

/-- A new line at a level of indentation. -/
def newline (level : Nat) : String := "\n" ++ String.ofList (List.replicate (2 * level) ' ')

mutual

/-- A value at a level of indentation, one item per line. -/
def pretty (level : Nat) : Json → String
  | .array (v :: items) =>
    "[" ++ prettyItems (level + 1) (v :: items) ++ newline level ++ "]"
  | .object (field :: fields) =>
    "\x7b" ++ prettyFields (level + 1) (field :: fields) ++ newline level ++ "\x7d"
  | v => scalar v

/-- Items on lines of their own. -/
def prettyItems (level : Nat) : List Json → String
  | [] => ""
  | [v] => newline level ++ pretty level v
  | v :: rest => newline level ++ pretty level v ++ "," ++ prettyItems level rest

/-- Fields on lines of their own. -/
def prettyFields (level : Nat) : List (String × Json) → String
  | [] => ""
  | [(key, v)] => newline level ++ quoted key ++ ": " ++ pretty level v
  | (key, v) :: rest =>
    newline level ++ quoted key ++ ": " ++ pretty level v ++ "," ++ prettyFields level rest

end

end Writer

/-- A value on one line, without space. -/
def compact (v : Json) : String := Writer.compact v

/-- A value with one item per line. -/
def pretty (v : Json) : String := Writer.pretty 0 v

end SiteAudit.Json

import SiteAudit.Text.Ascii
import SiteAudit.Text.Blank
import SiteAudit.Toml.Reader

/-!
# Configuration by environment variables

A variable whose name starts with `UNIAUDIT_` sets one field; two
underscores in the rest of the name lead into a section, so that
`UNIAUDIT_AUDIT__FAIL_ON` is the field `fail_on` of the section `audit`.
Letter case does not count.

The text of a variable is a truth value, a number, a list in brackets, a
section in braces, or a quoted text; everything else is a text as it stands.
-/

namespace SiteAudit.Config

open Toml (Value)

namespace Variable

/-! ## Texts of variables -/

/-- Blanks of ASCII. -/
def isBlank (c : Char) : Bool :=
  c == ' ' || c == '\t' || c == '\n' || c == '\x0c' || c == '\r'

/-- The rest from the first character that is no blank on. -/
def skipBlanks (s : List Char) : List Char := s.dropWhile isBlank

/-- Characters that no word contains, since lists and sections are made of them. -/
def isSeparator (c : Char) : Bool :=
  c == ',' || c == '\x7b' || c == '\x7d' || c == '[' || c == ']'

/-- Whether the text is a whole number that fits in 64 bits, with or without a sign. -/
def isInteger (s : List Char) : Bool :=
  (Numeral.unsigned? (UInt64.size - 1) s).isSome || (Numeral.signed? s).isSome

/-- Whether the text is a number with a point. -/
def isFloat (s : List Char) : Bool := s.contains '.' && (Numeral.Scientific.read? s).isSome

/-- The value of a word: a number, or the word as a text. -/
def wordValue (s : List Char) : Value :=
  let word := Text.trimChars s
  if isFloat word then .float (String.ofList word)
  else if isInteger word then .integer ((Numeral.signed? word).getD 0)
  else .string (String.ofList word)

/-- A text in quotes, after the first one. Escapes are those of configuration files. -/
def quoted (s : List Char) : Option (String × List Char) :=
  (Toml.Reader.basicText s.length s).map fun (cs, rest) => (String.ofList cs, rest)

/-- A word and the rest, with the blanks around the word. -/
def word (s : List Char) : Value × List Char :=
  match s.span (!isSeparator ·) with
  | (front, rest) => (wordValue front, rest)

/-- The items of a list, after its bracket or a comma. -/
def items (item : Text.Reader Value) : Nat → Text.Reader (List Value)
  | 0, _ => none
  | steps + 1, s =>
    match s with
    | ']' :: s => some ([], s)
    | s => do
      let (first, s) ← item s
      match s with
      | ',' :: s => (items item steps s).map fun (more, s) => (first :: more, s)
      | ']' :: s => some ([first], s)
      | _ => none

/-- Characters of the names of fields. -/
def isNameChar (c : Char) : Bool := c.isAlphanum || c == '_' || c == '-'

/-- The name of a field, with blanks around it. -/
def name (s : List Char) : Option (String × List Char) :=
  match (skipBlanks s).span isNameChar with
  | ([], '"' :: s) => (quoted s).map fun (name, s) => (name, skipBlanks s)
  | ([], _) => none
  | (cs, s) => some (String.ofList cs, skipBlanks s)

/-- The fields of a section, after its brace or a comma. -/
def fields (item : Text.Reader Value) : Nat → Text.Reader (List (String × Value))
  | 0, _ => none
  | steps + 1, s =>
    match s with
    | '\x7d' :: s => some ([], s)
    | s => do
      let (key, s) ← name s
      match s with
      | '=' :: s => do
        let (v, s) ← item s
        match s with
        | ',' :: s => (fields item steps s).map fun (more, s) => ((key, v) :: more, s)
        | '\x7d' :: s => some ([(key, v)], s)
        | _ => none
      | _ => none

/-- The entries with those of a list set one after the other. -/
def collect (found : List (String × Value)) : List (String × Value) :=
  found.foldl (fun entries field => Toml.setEntry field.1 field.2 entries) []

/-- What starts a value, before the blanks after it. -/
def bare (value : Text.Reader Value) (s : List Char) : Option (Value × List Char) :=
  match s with
  | '\x7b' :: s => (fields value s.length s).map fun (found, s) => (.table (collect found), s)
  | '[' :: s => (items value s.length s).map fun (found, s) => (.array found, s)
  | '"' :: s => (quoted s).map fun (text, s) => (.string text, s)
  | '\'' :: c :: '\'' :: s => some (.string c.toString, s)
  | '\'' :: _ => none
  | s =>
    if "true".toList.isPrefixOf s then some (.boolean true, s.drop 4)
    else if "false".toList.isPrefixOf s then some (.boolean false, s.drop 5)
    else some (word s)

/-- A value with blanks around it. -/
def value : Nat → Text.Reader Value
  | 0, _ => none
  | depth + 1, s => (bare (value depth) (skipBlanks s)).map fun (v, s) => (v, skipBlanks s)

/-- The value of the text of a variable. -/
def valueOf (text : String) : Value :=
  match value (text.length + 1) text.toList with
  | some (v, []) => v
  | _ => .string text

/-! ## Names of variables -/

/-- What the names of all variables start with, in small letters. -/
def beginning : List Char := "uniaudit_".toList

/-- The name with a dot for every two underscores. -/
def withDots : List Char → List Char
  | '_' :: '_' :: rest => '.' :: withDots rest
  | c :: rest => c :: withDots rest
  | [] => []

/-- The field that a variable sets, as the names of its sections and its own. -/
def path? (variableName : String) : Option (List String) :=
  let name := (Text.trimChars variableName.toList).map Char.toLower
  if beginning.isPrefixOf name then
    let parts := Text.pieces '.' (Text.trimChars (withDots (name.drop beginning.length)))
    if parts.any List.isEmpty then none else some (parts.map String.ofList)
  else none

/-- A value inside the sections that lead to it. -/
def nested (v : Value) : List String → Value
  | [] => v
  | name :: path => .table [(name, nested v path)]

/-- What a variable sets, if it is one of the configuration. -/
def setting? (entry : String × String) : Option Value :=
  (path? entry.1).map (nested (valueOf entry.2))

end Variable

end SiteAudit.Config

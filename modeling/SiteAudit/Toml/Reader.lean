import SiteAudit.Numeral.Scientific
import SiteAudit.Text.Reader
import SiteAudit.Toml.Basic
import SiteAudit.Toml.Moment

/-!
# Reading TOML

A document is read line by line into statements, which `ofStatements?` then
puts together. Each reader takes the characters that are left and gives what
it found with the rest, or nothing.

Numbers, dates and the words for truth values are told apart by their whole
token, since none of them can be followed by a character of the others.

Loops over the characters of a document carry a bound on their steps, which
is the length of the document; every step takes at least one character.
-/

namespace SiteAudit.Toml.Reader

/-! ## Blanks, comments and line ends -/

/-- A blank inside a line. -/
def isBlank (c : Char) : Bool := c == ' ' || c == '\t'

/-- The rest from the first character that is no blank on. -/
def skipBlanks (s : List Char) : List Char := s.dropWhile isBlank

/-- Characters of comments and quoted texts: all but control characters, tabs excepted. -/
def isTextChar (c : Char) : Bool := c == '\t' || (0x20 ≤ c.toNat && c.toNat != 0x7F)

/-- The rest after the end of a line, if one comes next. -/
def afterLineEnd? : List Char → Option (List Char)
  | '\n' :: s => some s
  | '\r' :: '\n' :: s => some s
  | _ => none

/-- The rest after a comment, if there is one. -/
def skipComment (s : List Char) : List Char :=
  if s.head? = some '#' then s.dropWhile isTextChar else s

/-- The rest after blanks and a comment, where the line or the document has to end. -/
def endLine (s : List Char) : Option (List Char) :=
  match skipComment (skipBlanks s) with
  | [] => some []
  | s => afterLineEnd? s

/-- The rest after blanks, comments and line ends. -/
def skipLines : Nat → List Char → List Char
  | 0, s => s
  | steps + 1, s =>
    let s := skipComment (skipBlanks s)
    match afterLineEnd? s with
    | some s => skipLines steps s
    | none => s

/-! ## Texts -/

/-- The character that a letter stands for after a backslash. -/
def simpleEscape? (c : Char) : Option Char :=
  [('b', '\x08'), ('t', '\t'), ('n', '\n'), ('f', '\x0c'), ('r', '\r'), ('"', '"'),
    ('\\', '\\')].lookup c

/-- The character that so many hexadecimal digits stand for. -/
def hexChar? (count : Nat) (s : List Char) : Option (Char × List Char) := do
  if s.length < count then none
  else
    let code ← Numeral.digits? 16 (s.take count)
    if code.isValidChar then some (Char.ofNat code, s.drop count) else none

/-- The character that an escape stands for, after the backslash. -/
def escape : Text.Reader Char
  | 'u' :: s => hexChar? 4 s
  | 'U' :: s => hexChar? 8 s
  | c :: s => (simpleEscape? c).map (·, s)
  | [] => none

/-- The characters up to the closing quote. -/
def basicText : Nat → Text.Reader (List Char)
  | 0, _ => none
  | steps + 1, s =>
    match s with
    | '"' :: s => some ([], s)
    | '\\' :: s => do
      let (c, s) ← escape s
      let (cs, s) ← basicText steps s
      some (c :: cs, s)
    | c :: s =>
      if isTextChar c then (basicText steps s).map fun (cs, s) => (c :: cs, s) else none
    | [] => none

/-- The characters up to the closing apostrophe. -/
def literalText (s : List Char) : Option (List Char × List Char) :=
  match s.span fun c => isTextChar c && c != '\'' with
  | (cs, '\'' :: rest) => some (cs, rest)
  | _ => none

/-- A text on one line, by its opening quote. -/
def lineText (s : List Char) : Option (String × List Char) :=
  match s with
  | '"' :: rest => (basicText rest.length rest).map fun (cs, rest) => (String.ofList cs, rest)
  | '\'' :: rest => (literalText rest).map fun (cs, rest) => (String.ofList cs, rest)
  | _ => none

/-- A run of quotes: how many belong to the text, and the rest after it if the text ends here. -/
def closing (quote : Char) (s : List Char) : Nat × Option (List Char) :=
  let run := (s.takeWhile (· == quote)).length
  if run < 3 then (run, none) else (min run 5 - 3, some (s.drop (min run 5)))

/-- The rest after all blanks and line ends. -/
def skipBreaks : List Char → List Char
  | '\r' :: '\n' :: s => skipBreaks s
  | c :: s => if isBlank c || c == '\n' then skipBreaks s else c :: s
  | [] => []

/-- The rest after a backslash at the end of a line, which joins the next text to this one. -/
def continued? (s : List Char) : Option (List Char) :=
  (afterLineEnd? (skipBlanks s)).map skipBreaks

/-- The characters of a text of several lines, up to three closing quotes. -/
def linesText (quote : Char) (escapes : Bool) : Nat → Text.Reader (List Char)
  | 0, _ => none
  | steps + 1, s =>
    match s with
    | [] => none
    | c :: rest =>
      if c == quote then
        match closing quote s with
        | (quotes, some rest) => some (List.replicate quotes quote, rest)
        | (quotes, none) =>
          (linesText quote escapes steps (s.drop quotes)).map fun (cs, s) =>
            (List.replicate quotes quote ++ cs, s)
      else if escapes && c == '\\' then
        match continued? rest with
        | some rest => linesText quote escapes steps rest
        | none => do
          let (c, rest) ← escape rest
          (linesText quote escapes steps rest).map fun (cs, s) => (c :: cs, s)
      else match afterLineEnd? s with
        | some rest => (linesText quote escapes steps rest).map fun (cs, s) => ('\n' :: cs, s)
        | none =>
          if isTextChar c then
            (linesText quote escapes steps rest).map fun (cs, s) => (c :: cs, s)
          else none

/-- A text of several lines after its opening quotes; a line end directly after them is dropped. -/
def openedLines (quote : Char) (escapes : Bool) (s : List Char) : Option (String × List Char) :=
  let s := (afterLineEnd? s).getD s
  (linesText quote escapes (s.length + 1) s).map fun (cs, s) => (String.ofList cs, s)

/-- A text in any of the four ways to write one. -/
def text (s : List Char) : Option (String × List Char) :=
  match s with
  | '"' :: '"' :: '"' :: rest => openedLines '"' true rest
  | '\'' :: '\'' :: '\'' :: rest => openedLines '\'' false rest
  | s => lineText s

/-! ## Names -/

/-- Characters of names without quotes. -/
def isBare (c : Char) : Bool := c.isAlphanum || c == '_' || c == '-'

/-- One name. -/
def name (s : List Char) : Option (String × List Char) :=
  match s.span isBare with
  | ([], s) => lineText s
  | (cs, rest) => some (String.ofList cs, rest)

/-- How many names a path may have, and how deep arrays and tables in braces may be nested. -/
def maxDepth : Nat := 79

/-- Names with dots between them, and blanks around each; not more of them than there are steps. -/
def pathWithin : Nat → Text.Reader (List String)
  | 0, _ => none
  | steps + 1, s => do
    let (first, s) ← name (skipBlanks s)
    match skipBlanks s with
    | '.' :: s => (pathWithin steps s).map fun (more, s) => (first :: more, s)
    | s => some ([first], s)

/-- A path: names with dots between them. -/
def path : Text.Reader (List String) := pathWithin maxDepth

/-! ## Tokens -/

/-- Digits without the underscores between them, if each underscore is between two digits. -/
def ungrouped? (isDigit : Char → Bool) (s : List Char) : Option (List Char) :=
  let parts := Text.pieces '_' s
  if parts.all fun part => !part.isEmpty && part.all isDigit then some parts.flatten else none

/-- Digits of a decimal number, which start with a zero only if that is all. -/
def decimalDigits? (s : List Char) : Option (List Char) :=
  (ungrouped? Char.isDigit s).filter fun digits => digits.length == 1 || digits.head? != some '0'

/-- A whole number of 64 bits. -/
def integer? (token : List Char) : Option Int :=
  match token with
  | '0' :: 'x' :: s => (ungrouped? (fun c => (Numeral.digit? 16 c).isSome) s).bind (based 16)
  | '0' :: 'o' :: s => (ungrouped? (fun c => (Numeral.digit? 8 c).isSome) s).bind (based 8)
  | '0' :: 'b' :: s => (ungrouped? (fun c => (Numeral.digit? 2 c).isSome) s).bind (based 2)
  | token => do
    let (negative, s) := Numeral.Scientific.sign token
    let n : Int := (← Numeral.digits? 10 (← decimalDigits? s) : Nat)
    (some (if negative then -n else n)).filter Numeral.isSigned64
where
  /-- A number in another base. -/
  based (radix : Nat) (s : List Char) : Option Int :=
    ((Numeral.digits? radix s).map Int.ofNat).filter Numeral.isSigned64

/-- The digits of a decimal fraction or an exponent, which may start with zeros. -/
def isGrouped (s : List Char) : Bool := (ungrouped? Char.isDigit s).isSome

/-- Whether the text is an exponent. -/
def isExponent : List Char → Bool
  | [] => false
  | c :: s => (c == 'e' || c == 'E') && isGrouped (Numeral.Scientific.sign s).2

/-- Whether the text is a fraction, an exponent, or both. -/
def isFloatTail (s : List Char) : Bool :=
  match s with
  | '.' :: s =>
    let (fraction, rest) := s.span fun c => c.isDigit || c == '_'
    isGrouped fraction && (rest.isEmpty || isExponent rest)
  | s => isExponent s

/-- Whether the token is a number with a fraction or an exponent, and not beyond all doubles. -/
def isFloat (token : List Char) : Bool :=
  let (negative, s) := Numeral.Scientific.sign token
  let (whole, tail) := s.span fun c => c.isDigit || c == '_'
  if s == "inf".toList || s == "nan".toList then true
  else (decimalDigits? whole).isSome && isFloatTail tail &&
    (negative || (Numeral.Scientific.read? (token.filter (· != '_'))).any
      Numeral.Scientific.isFinite)

/-- Characters of tokens. -/
def isTokenChar (c : Char) : Bool := isBare c || c == '+' || c == '.' || c == ':'

/-- A token; after a date, a blank and a time belong to it. -/
def token (s : List Char) : List Char × List Char :=
  let (front, rest) := s.span isTokenChar
  match afterDate? front, rest with
  | some [], ' ' :: back =>
    if back.head?.any Char.isDigit then
      let (time, rest) := back.span isTokenChar
      (front ++ ' ' :: time, rest)
    else (front, rest)
  | _, _ => (front, rest)

/-- What a token stands for. -/
def tokenValue? (token : List Char) : Option Value :=
  if token = "true".toList then some (.boolean true)
  else if token = "false".toList then some (.boolean false)
  else if isMoment token then some (.datetime (String.ofList token))
  else if isFloat token then some (.float (String.ofList token))
  else (integer? token).map .integer

/-! ## Values -/

/-- The items of an array, after its bracket or a comma. -/
def arrayItems (item : Text.Reader Value) : Nat → Text.Reader (List Value)
  | 0, _ => none
  | steps + 1, s =>
    match skipLines (s.length + 1) s with
    | ']' :: s => some ([], s)
    | s => do
      let (first, s) ← item s
      match skipLines (s.length + 1) s with
      | ',' :: s => (arrayItems item steps s).map fun (more, s) => (first :: more, s)
      | ']' :: s => some ([first], s)
      | _ => none

/-- A name and a value. -/
def pair (value : Text.Reader Value) (s : List Char) :
    Option ((List String × Value) × List Char) := do
  let (names, s) ← path s
  match s with
  | '=' :: s => do
    let (v, s) ← value (skipBlanks s)
    some ((names, v), skipBlanks s)
  | _ => none

/-- The pairs of a table in braces. -/
def tablePairs (value : Text.Reader Value) : Nat → Text.Reader (List (List String × Value))
  | 0, _ => none
  | steps + 1, s => do
    let (first, s) ← pair value s
    match s with
    | ',' :: s => (tablePairs value steps s).map fun (more, s) => (first :: more, s)
    | '\x7d' :: s => some ([first], s)
    | _ => none

/-- A table in braces, after the first one. -/
def inlineTable (value : Text.Reader Value) (s : List Char) : Option (Value × List Char) :=
  match skipBlanks s with
  | '\x7d' :: s => some (.table [], s)
  | s => do
    let (pairs, s) ← tablePairs value s.length s
    some (← inlineTable? pairs, s)

/-- A value. -/
def value : Nat → Text.Reader Value
  | depth, s =>
    match s with
    | [] => none
    | c :: rest =>
      if c == '"' || c == '\'' then (text s).map fun (t, s) => (.string t, s)
      else if c == '[' then
        match depth with
        | 0 => none
        | depth + 1 =>
          (arrayItems (value depth) rest.length rest).map fun (items, s) => (.array items, s)
      else if c == '\x7b' then
        match depth with
        | 0 => none
        | depth + 1 => inlineTable (value depth) rest
      else
        let (front, rest) := token s
        (tokenValue? front).map (·, rest)

/-! ## Documents -/

/-- A header of a table or of one more table of an array, after its first bracket. -/
def header (s : List Char) : Option (Statement × List Char) :=
  match s with
  | '[' :: s => do
    let (names, s) ← path s
    match s with
    | ']' :: ']' :: s => some (.arrayItem names, s)
    | _ => none
  | s => do
    let (names, s) ← path s
    match s with
    | ']' :: s => some (.table names, s)
    | _ => none

/-- The statement of a line that has one. -/
def statement (s : List Char) : Option (Statement × List Char) :=
  match s with
  | '[' :: s => header s
  | s => (pair (value maxDepth) s).map fun ((names, v), s) => (.entry names v, s)

/-- The statements of a document. -/
def statements : Nat → List Char → Option (List Statement)
  | 0, _ => none
  | steps + 1, s =>
    match skipLines (s.length + 1) s with
    | [] => some []
    | s => do
      let (first, s) ← statement s
      let more ← statements steps (← endLine s)
      some (first :: more)

end Reader

/-- The table that a document describes. A byte order mark before it does not count. -/
def parse? (document : String) : Option (List (String × Value)) :=
  let s := document.toList
  let s := if s.head? = some '\uFEFF' then s.tail else s
  (Reader.statements (s.length + 1) s).bind ofStatements?

end SiteAudit.Toml

import SiteAudit.Json.Basic
import SiteAudit.Text.Reader

/-!
# Reading JSON

The reader takes exactly the documents of the JSON grammar, up to a given
depth of nested arrays and objects. Of a field that is given more than once
the last value counts. Texts must be whole: an escape that stands for half a
surrogate pair makes the document invalid, and so does a number beyond the
largest double.

Each reader takes the characters that are left and gives a value with the
rest. `value` recurses on the depth that is still allowed; the number of
items in one array or object is bounded by the length of the whole text,
which excludes nothing.
-/

namespace SiteAudit.Json.Reader

/-- The four characters that may stand between the parts of a document. -/
def isSpace (c : Char) : Bool := c == ' ' || c == '\n' || c == '\t' || c == '\r'

/-- The characters from the first that is not space on. -/
def skipSpace (s : List Char) : List Char := s.dropWhile isSpace

/-- The rest after a given word. -/
def expect (word : List Char) (s : List Char) : Option (List Char) :=
  if word.isPrefixOf s then some (s.drop word.length) else none

/-! ## Numbers -/

/-- The digits of a numeral; at least one. -/
def digits (s : List Char) : Option (List Char × List Char) :=
  match s.span Char.isDigit with
  | ([], _) => none
  | found => some found

/-- The parts of a numeral: digits, digits after the point, and the exponent, if there are any. -/
structure Numeral where
  negative : Bool
  whole : List Char
  fraction : Option (List Char)
  exponent : Option (Bool × List Char)

/-- The part after the point, if there is a point. -/
def fraction : Text.Reader (Option (List Char))
  | '.' :: s => (digits s).map fun (ds, rest) => (some ds, rest)
  | s => some (none, s)

/-- The exponent, if there is one: whether it is negative, and its digits. -/
def exponent : Text.Reader (Option (Bool × List Char))
  | c :: s =>
    if c == 'e' || c == 'E' then
      let (negative, s) := match s with
        | '-' :: s => (true, s)
        | '+' :: s => (false, s)
        | s => (false, s)
      (digits s).map fun (ds, rest) => (some (negative, ds), rest)
    else some (none, c :: s)
  | [] => some (none, [])

/-- A numeral by its parts. Only the numeral `0` itself starts with a zero before the point. -/
def numeral (s : List Char) : Option (Numeral × List Char) := do
  let (negative, s) := match s with
    | '-' :: s => (true, s)
    | s => (false, s)
  let (whole, s) ← digits s
  if 1 < whole.length ∧ whole.head? = some '0' then none
  else
    let (fraction, s) ← fraction s
    let (exponent, s) ← exponent s
    some (⟨negative, whole, fraction, exponent⟩, s)

/-- The significand may take 64 bits. -/
def significandLimit : Nat := UInt64.size

/--
Digits taken into the significand as long as it fits: the significand, and how many digits were
taken. From the first digit that no longer fits on, digits only move the exponent.
-/
def accumulate (significand taken : Nat) : List Char → Nat × Nat
  | [] => (significand, taken)
  | c :: rest =>
    let next := significand * 10 + (c.toNat - '0'.toNat)
    if next < significandLimit then accumulate next (taken + 1) rest else (significand, taken)

/-- The largest exponent that is read as a number; a greater one means zero or too large. -/
def exponentLimit : Nat := 0x80000000

/-- The double of a numeral with a fraction, an exponent or too many digits. -/
def Numeral.double? (n : Numeral) : Option Double := do
  let (significand, taken) := accumulate 0 0 n.whole
  let dropped : Int := n.whole.length - taken
  let (significand, moved) := accumulate significand 0 (n.fraction.getD [])
  let base := dropped - moved
  let x ← match n.exponent with
    | none => Double.ofDecimal significand base
    | some (negative, ds) =>
      let power : Int := ((Numeral.value? 10 0 ds).getD 0 : Nat)
      if power < exponentLimit then
        Double.ofDecimal significand (if negative then base - power else base + power)
      else if significand = 0 ∨ negative then some Double.zero
      else none
  some (if n.negative then x.neg else x)

/-- A numeral without fraction and exponent is whole if it fits in 64 bits; `-0` is a double. -/
def Numeral.number? (n : Numeral) : Option Number :=
  let whole : Int := ((Numeral.value? 10 0 n.whole).getD 0 : Nat)
  let signed := if n.negative then -whole else whole
  let isWhole := n.fraction.isNone && n.exponent.isNone
  if isWhole && !n.negative && Numeral.isUnsigned64 whole then some (.integer whole)
  else if isWhole && n.negative && signed < 0 && Numeral.isSigned64 signed then
    some (.integer signed)
  else n.double?.map .double

/-- A number. -/
def number : Text.Reader Number := fun s => do
  let (n, rest) ← numeral s
  some (← n.number?, rest)

/-! ## Texts -/

/-- The value of four hexadecimal digits. -/
def hex4 : Text.Reader Nat
  | a :: b :: c :: d :: rest => (Numeral.digits? 16 [a, b, c, d]).map fun n => (n, rest)
  | _ => none

/-- The character that an escape stands for, `\u` escapes apart. -/
def simpleEscape? : Char → Option Char
  | '"' => some '"'
  | '\\' => some '\\'
  | '/' => some '/'
  | 'b' => some '\x08'
  | 'f' => some '\x0c'
  | 'n' => some '\n'
  | 'r' => some '\r'
  | 't' => some '\t'
  | _ => none

/-- Whether the code unit is the first half of a surrogate pair. -/
def isHighSurrogate (unit : Nat) : Bool := 0xD800 ≤ unit && unit < 0xDC00

/-- Whether the code unit is the second half of a surrogate pair. -/
def isLowSurrogate (unit : Nat) : Bool := 0xDC00 ≤ unit && unit < 0xE000

/-- The character of a `\u` escape, of which the `\u` has been read. -/
def unicodeEscape : Text.Reader Char := fun s => do
  let (unit, rest) ← hex4 s
  if isHighSurrogate unit then
    let rest ← expect ['\\', 'u'] rest
    let (second, rest) ← hex4 rest
    if isLowSurrogate second then
      some (Char.ofNat (0x10000 + (unit - 0xD800) * 0x400 + (second - 0xDC00)), rest)
    else none
  else if isLowSurrogate unit then none
  else some (Char.ofNat unit, rest)

/-- The characters up to the closing quote, escapes still as they are written, and the rest. -/
def rawText : Text.Reader (List Char)
  | '"' :: rest => some ([], rest)
  | '\\' :: c :: rest => (rawText rest).map fun (cs, rest) => ('\\' :: c :: cs, rest)
  | c :: rest => (rawText rest).map fun (cs, rest) => (c :: cs, rest)
  | [] => none

/-- One character of a text, written as itself or as an escape. -/
def textChar : Text.Reader Char
  | '\\' :: 'u' :: rest => unicodeEscape rest
  | '\\' :: c :: rest => (simpleEscape? c).map fun e => (e, rest)
  | c :: rest => if c = '\\' ∨ c.toNat < 0x20 then none else some (c, rest)
  | [] => none

/-- The characters that a raw text stands for; there are at most `fuel` of them. -/
def unescape : Nat → List Char → Option (List Char)
  | _, [] => some []
  | 0, _ => none
  | fuel + 1, s => do
    let (c, rest) ← textChar s
    (unescape fuel rest).map (c :: ·)

/-- A text in quotes. -/
def text : Text.Reader String
  | '"' :: s => do
    let (raw, rest) ← rawText s
    let cs ← unescape raw.length raw
    some (String.ofList cs, rest)
  | _ => none

/-! ## Values -/

/--
Items between commas up to and with a closing bracket. The first item has to follow; at most
`fuel` items are read.
-/
def items (item : Text.Reader α) (close : Char) : Nat → Text.Reader (List α)
  | 0, _ => none
  | fuel + 1, s => do
    let (a, rest) ← item (skipSpace s)
    match skipSpace rest with
    | c :: rest =>
      if c = close then some ([a], rest)
      else if c = ',' then do
        let (more, rest) ← items item close fuel rest
        some (a :: more, rest)
      else none
    | [] => none

/-- The inside of brackets: nothing, or at most `breadth` items between commas. -/
def bracketed (item : Text.Reader α) (close : Char) (breadth : Nat) :
    Text.Reader (List α) := fun s =>
  let inside := skipSpace s
  if inside.head? = some close then some ([], inside.tail)
  else items item close breadth inside

/-- A field: a text, a colon and a value. -/
def field (value : Text.Reader Json) : Text.Reader (String × Json) := fun s => do
  let (key, rest) ← text s
  let rest ← expect [':'] (skipSpace rest)
  let (v, rest) ← value (skipSpace rest)
  some ((key, v), rest)

/-- Fields in order, the last value of each key in the place of the first. -/
def collect (fields : List (String × Json)) : List (String × Json) :=
  fields.foldl (fun found (key, v) => put key v found) []

/-- A value that is not an array or object. -/
def scalar : Text.Reader Json := fun s =>
  match s with
  | '"' :: _ => (text s).map fun (t, rest) => (.string t, rest)
  | 't' :: _ => (expect ['t', 'r', 'u', 'e'] s).map fun rest => (.bool true, rest)
  | 'f' :: _ => (expect ['f', 'a', 'l', 's', 'e'] s).map fun rest => (.bool false, rest)
  | 'n' :: _ => (expect ['n', 'u', 'l', 'l'] s).map fun rest => (.null, rest)
  | _ => (number s).map fun (n, rest) => (.number n, rest)

/--
A value with at most `depth` arrays and objects around each other, and at most `breadth` items in
each of them.
-/
def value (breadth : Nat) : Nat → Text.Reader Json
  | 0, s => scalar s
  | depth + 1, s =>
    match s with
    | '[' :: inside =>
      (bracketed (value breadth depth) ']' breadth inside).map fun (vs, rest) => (.array vs, rest)
    | '{' :: inside =>
      (bracketed (field (value breadth depth)) '}' breadth inside).map fun (fs, rest) =>
        (.object (collect fs), rest)
    | _ => scalar s

end Reader

/-- A document of at most `depth` nested arrays and objects: one value, and space around it. -/
def read (depth : Nat) (text : String) : Option Json :=
  let chars := text.toList
  match Reader.value chars.length depth (Reader.skipSpace chars) with
  | some (v, rest) => if (Reader.skipSpace rest).isEmpty then some v else none
  | none => none

/-- The depth up to which controller documents are read. -/
def documentDepth : Nat := 127

/-- A controller document. -/
def parse (text : String) : Option Json := read documentDepth text

end SiteAudit.Json

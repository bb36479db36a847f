import SiteAudit.Numeral.Scientific

/-!
# YAML scalars

How a text is written as a YAML scalar: plain wherever it reads back as the
same text, else in quotes or as a block of lines.

* Texts that would read as null, a truth value or a number are quoted. The
  words `yes`, `off` and the like are no truth values.
* Texts with line feeds become literal blocks.
* Single quotes come before double quotes, which can escape everything.

## Main results

* `styleOf_eq_plain_iff` — which texts are written plain.
-/

namespace SiteAudit.Yaml

/-! ## Texts that read as something else -/

/-- Texts that read as null. -/
def nulls : List String := ["", "null", "Null", "NULL", "~"]

/-- Texts that read as a truth value. -/
def truthValues : List String := ["true", "True", "TRUE", "false", "False", "FALSE"]

/-- Whether the text starts with a sign or is only that. -/
def isSigned (s : List Char) : Bool := s.head? == some '-' || s.head? == some '+'

/-- Digits after a leading zero, with or without a sign: a text that is no number. -/
def isZeroPadded (s : List Char) : Bool :=
  let digits := if isSigned s then s.tail else s
  1 < digits.length && digits.head? == some '0' && digits.all Char.isDigit

/-- The base and the digits after `0x`, `0o` or `0b`. -/
def based? : List Char → Option (Nat × List Char)
  | '0' :: 'x' :: s => some (16, s)
  | '0' :: 'o' :: s => some (8, s)
  | '0' :: 'b' :: s => some (2, s)
  | _ => none

/-- Whether the text is a whole number in another base: at most 128 bits, one less below zero. -/
def isBasedInteger (s : List Char) : Bool :=
  let negative := s.head? == some '-'
  match based? (if isSigned s then s.tail else s) with
  | some (base, digits) =>
    (Numeral.digits? base digits).any fun n => n ≤ if negative then 1 <<< 127 else (1 <<< 128) - 1
  | none => false

/-- Texts that read as infinite or as no number. -/
def specialFloats : List String :=
  [".inf", ".Inf", ".INF", "+.inf", "+.Inf", "+.INF", "-.inf", "-.Inf", "-.INF", ".nan", ".NaN",
    ".NAN"]

/-- Whether the text is a decimal numeral in the range of doubles. -/
def isDecimal (s : List Char) : Bool :=
  (Numeral.Scientific.read? s).any Numeral.Scientific.isFinite

/-- Whether the text is a number, or digits that only look like one. -/
def looksLikeNumber (s : List Char) : Bool :=
  isZeroPadded s || isBasedInteger s || isDecimal s || specialFloats.contains (String.ofList s)

/-- Whether the text would read as something else than a text. -/
def isMisleading (s : String) : Bool :=
  nulls.contains s || truthValues.contains s || looksLikeNumber s.toList

/-! ## Characters -/

/-- Characters that end a line. -/
def isBreak (c : Char) : Bool :=
  c == '\n' || c == '\r' || c == '\u0085' || c == '\u2028' || c == '\u2029'

/-- Characters that can stand in a document as they are. -/
def isPrintable (c : Char) : Bool :=
  c == '\n' || (0x20 ≤ c.toNat && c.toNat ≤ 0x7E) ||
    (0xA0 ≤ c.toNat && c != '\uFEFF' && c != '\uFFFE' && c != '\uFFFF')

/-- Whether what follows, if anything, is a blank or ends the line. -/
def endsWord (next : Option Char) : Bool := next.all fun c => c == ' ' || c == '\t' || isBreak c

/-- Whether two neighbouring characters have these properties. -/
def adjacent (p q : Char → Bool) : List Char → Bool
  | a :: b :: rest => (p a && q b) || adjacent p q (b :: rest)
  | _ => false

/-- Whether the text has a character outside those that can be printed. -/
def hasSpecial (s : List Char) : Bool := s.any (!isPrintable ·)

/-- Characters that mean something at the start of a scalar. -/
def leadingIndicators : List Char :=
  ['#', ',', '[', ']', '\x7b', '\x7d', '&', '*', '!', '|', '>', '\'', '"', '%', '@', '\x60']

/-- Whether the text starts with something that is no plain scalar. -/
def startsWithIndicator : List Char → Bool
  | [] => false
  | c :: rest =>
    leadingIndicators.contains c || ((c == '?' || c == '-') && endsWord rest.head?) ||
      "---".toList.isPrefixOf (c :: rest) || "...".toList.isPrefixOf (c :: rest)

/-- Whether a colon ends a word, or a number sign starts one. -/
def hasIndicator : List Char → Bool
  | [] => false
  | [c] => c == ':'
  | a :: b :: rest =>
    (a == ':' && endsWord (some b)) || (b == '#' && endsWord (some a)) || hasIndicator (b :: rest)

/-- A blank. -/
def isSpace (c : Char) : Bool := c == ' '

/-- Whether the text can be written plain. -/
def allowsPlain (s : List Char) : Bool :=
  !(s.head?.any isSpace) && !(s.getLast?.any isSpace) && !s.any isBreak && !hasSpecial s &&
    !startsWithIndicator s && !hasIndicator s

/-- Whether the text can be written in single quotes. -/
def allowsSingle (s : List Char) : Bool :=
  !adjacent isBreak isSpace s && !adjacent isSpace isBreak s && !hasSpecial s

/-- Whether the text can be written as a block of lines. -/
def allowsLiteral (s : List Char) : Bool :=
  !(s.getLast?.any isSpace) && !adjacent isSpace isBreak s && !hasSpecial s

/-! ## Styles -/

/-- The ways in which a text is written. -/
inductive Style where
  | plain
  | single
  | double
  | literal
deriving Repr, DecidableEq

/-- Single quotes if possible, else double quotes. -/
def quotedStyle (s : List Char) : Style := if allowsSingle s then .single else .double

/-- The style in which a text is written. -/
def styleOf (s : String) : Style :=
  if isMisleading s then quotedStyle s.toList
  else if s.toList.contains '\n' then if allowsLiteral s.toList then .literal else .double
  else if allowsPlain s.toList then .plain
  else quotedStyle s.toList

/-- Blanks up to a level of indentation. -/
def indentation (indent : Nat) : List Char := List.replicate indent ' '

/-- The characters of a text with indentation at the start of every line but the first. -/
def indentLines (indent : Nat) (write : Char → List Char) : Bool → List Char → List Char
  | afterBreak, [] => if afterBreak then indentation indent else []
  | afterBreak, c :: rest =>
    if isBreak c then c :: indentLines indent write true rest
    else (if afterBreak then indentation indent else []) ++ write c ++
      indentLines indent write false rest

/-- A character between single quotes. -/
def singleQuoted (c : Char) : List Char := if c == '\'' then ['\'', '\''] else [c]

/-- The hexadecimal digits of a number, `count` of them, with capital letters. -/
def hexDigits (count n : Nat) : List Char :=
  (Numeral.write 16 n |>.map Char.toUpper).leftpad count '0'

/-- The letters that stand for characters after a backslash. -/
def shortEscapes : List (Char × Char) :=
  [('\x00', '0'), ('\x07', 'a'), ('\x08', 'b'), ('\t', 't'), ('\n', 'n'), ('\x0b', 'v'),
    ('\x0c', 'f'), ('\r', 'r'), ('\x1b', 'e'), ('"', '"'), ('\\', '\\'), ('\u0085', 'N'),
    ('\u00a0', '_'), ('\u2028', 'L'), ('\u2029', 'P')]

/-- A character between double quotes. -/
def doubleQuoted (c : Char) : List Char :=
  if isPrintable c && !isBreak c && c != '"' && c != '\\' then [c]
  else match shortEscapes.lookup c with
    | some letter => ['\\', letter]
    | none =>
      if c.toNat ≤ 0xFF then '\\' :: 'x' :: hexDigits 2 c.toNat
      else if c.toNat ≤ 0xFFFF then '\\' :: 'u' :: hexDigits 4 c.toNat
      else '\\' :: 'U' :: hexDigits 8 c.toNat

/-- How the end of a block of lines is to be read: without its last break, or with all of them. -/
def chomping (s : List Char) : List Char :=
  match s.reverse with
  | [] => ['-']
  | [c] => if isBreak c then ['+'] else ['-']
  | c :: d :: _ => if !isBreak c then ['-'] else if isBreak d then ['+'] else []

/-- The lines of a block; the indentation is given where the first line does not show it. -/
def literalBlock (indent : Nat) (s : List Char) : List Char :=
  let hint := if s.head?.any fun c => c == ' ' || isBreak c then ['2'] else []
  let lines := (s.reverse.dropWhile isBreak).reverse
  let body := if lines.isEmpty then [] else indentLines indent (fun c => [c]) true lines
  let breaks := (s.reverse.takeWhile isBreak).reverse
  '|' :: hint ++ chomping s ++ ['\n'] ++ body ++ breaks

/-- A text as a scalar whose further lines are indented. -/
def scalar (indent : Nat) (s : String) : String :=
  match styleOf s with
  | .plain => s
  | .single => String.ofList ('\'' :: indentLines indent singleQuoted false s.toList ++ ['\''])
  | .double => String.ofList ('"' :: s.toList.flatMap doubleQuoted ++ ['"'])
  | .literal => String.ofList (literalBlock indent s.toList)

/-! ## Laws -/

/-- A text is written plain exactly if it reads as a text and nothing in it has a meaning. Those
with line feeds, which are asked for first, are never among them. -/
theorem styleOf_eq_plain_iff {s : String} :
    styleOf s = .plain ↔ isMisleading s = false ∧ allowsPlain s.toList = true := by
  have hquoted : ∀ cs, quotedStyle cs ≠ .plain := by
    intro cs
    rw [quotedStyle]
    split <;> decide
  have hbreak : allowsPlain s.toList = true → s.toList.contains '\n' = false := by
    intro hplain
    have hnone : s.toList.any isBreak = false := by
      simp only [allowsPlain, Bool.and_eq_true, Bool.not_eq_true'] at hplain
      exact hplain.1.1.1.2
    refine Bool.eq_false_iff.2 fun hfeed => ?_
    exact List.any_eq_false.1 hnone '\n' (List.contains_iff_mem.1 hfeed) rfl
  rw [styleOf]
  split
  · next hmisleading => simp [hmisleading, hquoted]
  · next hclear =>
    have hclear : isMisleading s = false := Bool.eq_false_iff.2 hclear
    split
    · next hfeed =>
      refine ⟨fun hstyle => ?_, fun h => ?_⟩
      · split at hstyle <;> cases hstyle
      · rw [hbreak h.2] at hfeed
        cases hfeed
    · split
      · next hplain => exact ⟨fun _ => ⟨hclear, hplain⟩, fun _ => rfl⟩
      · next hplain => simp [hquoted, hplain]

end SiteAudit.Yaml

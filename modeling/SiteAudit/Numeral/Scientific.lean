import SiteAudit.Numeral

/-!
# Numerals with a point and an exponent

Whether a text is a decimal numeral such as `-2.5`, `.5`, `1e9` or `7.`, and
whether its value is within the range of doubles. Only these two questions
matter where a text must not be mistaken for a number.

## Main results

* `isFinite_zero_cons` — zeros before a numeral do not change whether it is in range.
-/

namespace SiteAudit.Numeral

-- Powers are those of the core library, whatever else is imported.
attribute [local instance (high)] instPowNat

/-- The parts of a numeral: its digits before and after the point, and its exponent. -/
structure Scientific where
  negative : Bool
  whole : List Char
  fraction : List Char
  exponent : Int
deriving Repr, DecidableEq

namespace Scientific

/-- A sign, if there is one, and the rest. -/
def sign : List Char → Bool × List Char
  | '-' :: s => (true, s)
  | '+' :: s => (false, s)
  | s => (false, s)

/-- The exponent that a text ends with, if it is one. -/
def exponent? : List Char → Option Int
  | [] => some 0
  | c :: s =>
    if c == 'e' || c == 'E' then
      let (negative, ds) := sign s
      (digits? 10 ds).map fun n => if negative then -(n : Int) else n
    else none

/-- The digits after the point, and the rest; without a point there are none. -/
def afterPoint : List Char → List Char × List Char
  | '.' :: s => s.span Char.isDigit
  | s => ([], s)

/-- A numeral by its parts: at least one digit before or after the point. -/
def read? (s : List Char) : Option Scientific :=
  let (negative, s) := sign s
  let (whole, s) := s.span Char.isDigit
  let (fraction, s) := afterPoint s
  if whole.isEmpty && fraction.isEmpty then none
  else (exponent? s).map fun exponent => ⟨negative, whole, fraction, exponent⟩

/-- The digits from the first that is not zero on. -/
def significant (x : Scientific) : List Char := (x.whole ++ x.fraction).dropWhile (· == '0')

/-- The power of ten that the last digit counts. -/
def scale (x : Scientific) : Int := x.exponent - x.fraction.length

/-- What rounds to more than the largest double. -/
def overflow : Nat := (1 <<< 1024) - (1 <<< 970)

/--
Whether the value is in the range of doubles. Numerals with fewer than 309 places before the point
are, those with more are not; only with exactly 309 do the digits decide.
-/
def isFinite (x : Scientific) : Bool :=
  let places := x.significant.length + x.scale
  if x.significant.isEmpty || places < 309 then true
  else if 309 < places then false
  else
    let digits := (value? 10 0 x.significant).getD 0
    if 0 ≤ x.scale then digits * 10 ^ x.scale.toNat < overflow
    else digits < overflow * 10 ^ (-x.scale).toNat

/-- A zero before a numeral does not change whether it is in range. -/
theorem isFinite_zero_cons (x : Scientific) :
    isFinite { x with whole := '0' :: x.whole } = x.isFinite := by
  have hsignificant : significant { x with whole := '0' :: x.whole } = x.significant := by
    rw [significant, significant, List.cons_append, List.dropWhile_cons_of_pos rfl]
  rw [isFinite, isFinite, hsignificant]
  rfl

end Scientific

end SiteAudit.Numeral

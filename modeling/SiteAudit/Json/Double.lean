import SiteAudit.Numeral

/-!
# Double-precision numbers

JSON numbers with a fraction or an exponent are binary floating-point
numbers with 53 significant bits. They are kept here as a sign, a
significand and a power of two, and every operation is exact arithmetic on
natural numbers followed by one rounding, so that nothing depends on the
machine.

The text of such a number is the shortest decimal that reads back as the
same number, found grid by grid: the coarsest power of ten that has a
multiple within the rounding interval wins, and of its multiples the one
nearest to the number.

## Main results

* `nearestOnGrid_mem` — a decimal that is chosen lies in the rounding
  interval.
-/

namespace SiteAudit.Json

-- Powers are those of the core library, whatever else is imported.
attribute [local instance (high)] instPowNat

/-- The number `significand * 2 ^ exponent`, negated if `negative`. -/
structure Double where
  negative : Bool
  significand : Nat
  exponent : Int
deriving Repr, DecidableEq

namespace Double

/-- The exponent of the smallest numbers. -/
def minExponent : Int := -1074

/-- The exponent of the largest numbers. -/
def maxExponent : Int := 971

/-- Positive zero. -/
def zero : Double := ⟨false, 0, minExponent⟩

/-- The same number with the opposite sign. -/
def neg (x : Double) : Double := { x with negative := !x.negative }

/-! ## Rounding -/

/-- The quotient rounded to the nearest whole number, a half to the even neighbour. -/
def roundQuotient (num den : Nat) : Nat :=
  let quotient := num / den
  let twice := 2 * (num % den)
  if den < twice || (twice == den && quotient % 2 == 1) then quotient + 1 else quotient

/-- The quotient of `num` by `den * 2 ^ exponent`, as numerator and denominator. -/
def scaled (num den : Nat) (exponent : Int) : Nat × Nat :=
  (num * 2 ^ (-exponent).toNat, den * 2 ^ exponent.toNat)

/-- The exponent at which the quotient has 53 significant bits, or the smallest one there is. -/
def fittingExponent (num den : Nat) : Int :=
  let guess : Int := (num.log2 : Int) - (den.log2 : Int) - 53
  let (n, d) := scaled num den guess
  max minExponent (if n / d < 1 <<< 53 then guess else guess + 1)

/-- The double nearest to a positive quotient, or none where that is beyond the largest double. -/
def ofQuotient (num den : Nat) : Option Double :=
  if num = 0 then some zero
  else
    let exponent := fittingExponent num den
    let (n, d) := scaled num den exponent
    let rounded := roundQuotient n d
    let (significand, exponent) :=
      if rounded = 1 <<< 53 then (1 <<< 52, exponent + 1) else (rounded, exponent)
    if maxExponent < exponent then none else some ⟨false, significand, exponent⟩

/-- The double nearest to a natural number. -/
def ofNat (n : Nat) : Option Double := ofQuotient n 1

/-- The magnitude as numerator and denominator. -/
def magnitude (x : Double) : Nat × Nat :=
  (x.significand * 2 ^ x.exponent.toNat, 2 ^ (-x.exponent).toNat)

/-- The rounded product of two magnitudes. -/
def mul (x y : Double) : Option Double :=
  let (a, b) := x.magnitude
  let (c, d) := y.magnitude
  ofQuotient (a * c) (b * d)

/-- The rounded quotient of two magnitudes; the second is not zero. -/
def div (x y : Double) : Option Double :=
  let (a, b) := x.magnitude
  let (c, d) := y.magnitude
  ofQuotient (a * d) (b * c)

/-- The double nearest to a power of ten. -/
def powerOfTen (n : Nat) : Option Double := ofNat (10 ^ n)

/-- The largest power of ten that is below the largest double. -/
def maxPowerOfTen : Nat := 308

/-- The number divided by a power of ten, in steps of at most `10 ^ 308`, rounding at each. -/
def divPowerOfTen (x : Double) (n : Nat) : Option Double :=
  if x.significand = 0 then some x
  else if n ≤ maxPowerOfTen then do div x (← powerOfTen n)
  else do
    let x ← div x (← powerOfTen maxPowerOfTen)
    divPowerOfTen x (n - maxPowerOfTen)
termination_by n
decreasing_by
  have : 0 < maxPowerOfTen := by decide
  omega

/-- The number times a power of ten, or none where that is beyond the largest double. -/
def mulPowerOfTen (x : Double) (n : Nat) : Option Double :=
  if x.significand = 0 then some x
  else if n ≤ maxPowerOfTen then do mul x (← powerOfTen n)
  else none

/--
A significand of at most 64 bits times a power of ten. The significand is rounded first, then the
power of ten, then their product, so the last bit may differ from that of the exact value.
-/
def ofDecimal (significand : Nat) (exponent : Int) : Option Double := do
  let x ← ofNat significand
  if 0 ≤ exponent then mulPowerOfTen x exponent.toNat else divPowerOfTen x (-exponent).toNat

/-! ## Shortest decimal text -/

/-- The decimals `digits * 10 ^ scale`. -/
structure Decimal where
  digits : Nat
  scale : Int
deriving Repr, DecidableEq

/--
The reals that round to a double, in quarters of its last place: `low` and `high` are the ends,
`middle` the number itself, `closed` whether the ends belong.
-/
structure Interval where
  low : Nat
  middle : Nat
  high : Nat
  closed : Bool

/-- The rounding interval of a positive double. Below a power of two the gap is half as wide. -/
def interval (x : Double) : Interval where
  low := 4 * x.significand -
    (if x.significand = 1 <<< 52 ∧ minExponent < x.exponent then 1 else 2)
  middle := 4 * x.significand
  high := 4 * x.significand + 2
  closed := x.significand % 2 == 0

/-- Whether a point lies in the interval, all numbers times `unit`. -/
def Interval.holds (i : Interval) (unit point : Nat) : Bool :=
  if i.closed then i.low * unit ≤ point && point ≤ i.high * unit
  else i.low * unit < point && point < i.high * unit

/--
A quarter of the last place and the step `10 ^ scale` of a grid, both times the same power of
two and ten, which makes them whole.
-/
def gridUnits (x : Double) (scale : Int) : Nat × Nat :=
  let quarter := x.exponent - 2
  (2 ^ quarter.toNat * 10 ^ (-scale).toNat, 2 ^ (-quarter).toNat * 10 ^ scale.toNat)

/--
Of the multiples of `10 ^ scale` in the rounding interval, the one nearest to the number, if
there is one: the number lies between two multiples, and one of these two is it.
-/
def nearestOnGrid (x : Double) (scale : Int) : Option Decimal :=
  let i := x.interval
  let (unit, step) := x.gridUnits scale
  let below := i.middle * unit / step
  let fits (n : Nat) := i.holds unit (n * step)
  let above := below + 1
  if fits below && fits above then
    let gapBelow := i.middle * unit - below * step
    let gapAbove := above * step - i.middle * unit
    some ⟨if gapBelow < gapAbove || (gapBelow == gapAbove && below % 2 == 0) then below
      else above, scale⟩
  else if fits below then some ⟨below, scale⟩
  else if fits above then some ⟨above, scale⟩
  else none

/-- The grids from the coarsest to the finest that a double can need. -/
def grids : List Int := (List.range 634).map fun (n : Nat) => 309 - (n : Int)

/-- The shortest decimal that rounds to a positive double. -/
def shortest (x : Double) : Decimal :=
  (grids.findSome? x.nearestOnGrid).getD ⟨0, 0⟩

/--
How a decimal is written: with a point where the first digit stands for `10 ^ n` with `n` from
`leastPlain` to `greatestPlain`, otherwise with an exponent.
-/
structure Layout where
  leastPlain : Int
  greatestPlain : Int

/-- Five zeros may follow the point before the first digit, and sixteen digits precede it. -/
def textLayout : Layout := ⟨-5, 15⟩

/-- A decimal as text; a whole number keeps `.0`, and an exponent always has its sign. -/
def Decimal.text (layout : Layout) (d : Decimal) : List Char :=
  let digits := Numeral.write 10 d.digits
  let lead : Int := d.scale + digits.length - 1
  if layout.leastPlain ≤ lead ∧ lead ≤ layout.greatestPlain then
    if lead < 0 then
      ['0', '.'] ++ List.replicate (-lead - 1).toNat '0' ++ digits
    else if 0 ≤ d.scale then
      digits ++ List.replicate d.scale.toNat '0' ++ ['.', '0']
    else
      digits.take (lead.toNat + 1) ++ ['.'] ++ digits.drop (lead.toNat + 1)
  else
    let fraction := if digits.length ≤ 1 then [] else '.' :: digits.drop 1
    let sign := if lead < 0 then '-' else '+'
    digits.take 1 ++ fraction ++ ['e', sign] ++ Numeral.write 10 lead.natAbs

/-- The shortest decimal text that reads back as the same double. -/
def text (x : Double) : String :=
  let sign := if x.negative then ['-'] else []
  let body := if x.significand = 0 then ['0', '.', '0'] else x.shortest.text textLayout
  String.ofList (sign ++ body)

/-! ## Laws -/

/-- A decimal chosen on a grid lies in the rounding interval. -/
theorem nearestOnGrid_mem {x : Double} {scale : Int} {d : Decimal}
    (h : x.nearestOnGrid scale = some d) :
    d.scale = scale ∧
      x.interval.holds (x.gridUnits scale).1 (d.digits * (x.gridUnits scale).2) = true := by
  simp only [nearestOnGrid] at h
  split at h
  · next hboth =>
    simp only [Bool.and_eq_true] at hboth
    simp only [Option.some.injEq] at h
    subst h
    refine ⟨rfl, ?_⟩
    simp only
    split
    · exact hboth.1
    · exact hboth.2
  · split at h
    · next hbelow => simp only [Option.some.injEq] at h; subst h; exact ⟨rfl, hbelow⟩
    · split at h
      · next habove => simp only [Option.some.injEq] at h; subst h; exact ⟨rfl, habove⟩
      · simp at h

end Double

end SiteAudit.Json

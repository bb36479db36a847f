import SiteAudit.Numeral

/-!
# Internet addresses

An address is a number of 32 or 128 bits. This module holds the type, the
textual forms that are read, and the one textual form that is written.

Two dialects are read. An address by itself is strict: an octet has no
leading zero, and `::` stands for at least one group. Inside a block such as
`010.0.0.0/8` both are allowed.

## Main results

* `bits_ofBits` — building an address from bits that fit keeps them.
-/

namespace SiteAudit.Net

-- Powers are those of the core library, whatever else is imported.
attribute [local instance (high)] instPowNat

/-- The two versions of the protocol. -/
inductive Family where
  | v4
  | v6
deriving Repr, DecidableEq

/-- The bits of an address of this family. -/
def Family.width : Family → Nat
  | .v4 => 32
  | .v6 => 128

/-- An address: its family and its bits as a number. -/
structure Address where
  family : Family
  bits : Nat
  bound : bits < 2 ^ family.width
deriving Repr, DecidableEq

namespace Address

/-- The address with these bits; bits beyond the width are dropped. -/
def ofBits (family : Family) (bits : Nat) : Address :=
  ⟨family, bits % 2 ^ family.width, Nat.mod_lt _ (Nat.two_pow_pos _)⟩

theorem bits_ofBits {family : Family} {bits : Nat} (h : bits < 2 ^ family.width) :
    (ofBits family bits).bits = bits := Nat.mod_eq_of_lt h

/-- The number whose digits in the given base are these, the most significant first. -/
def ofDigits (base : Nat) (digits : List Nat) : Nat :=
  digits.foldl (fun number digit => number * base + digit) 0

/-! ## Reading -/

/-- What a reader lets pass: leading zeros of an octet, and `::` in place of no group at all. -/
structure Dialect where
  leadingZeros : Bool
  emptyGap : Bool

/-- Addresses by themselves. -/
def standalone : Dialect := ⟨false, false⟩

/-- Addresses that a slash and a prefix length follow. -/
def inBlock : Dialect := ⟨true, true⟩

/-- One number of a dotted address: at most three digits, at most 255. -/
def octet? (d : Dialect) (s : List Char) : Option Nat :=
  if 3 < s.length ∨ (!d.leadingZeros && decide (1 < s.length) && s.head? == some '0') then none
  else (Numeral.digits? 10 s).filter (· < 256)

/-- The bits of a dotted address. -/
def dotted? (d : Dialect) (s : List Char) : Option Nat :=
  match Text.pieces '.' s with
  | [a, b, c, e] => do
    some (ofDigits 256 [← octet? d a, ← octet? d b, ← octet? d c, ← octet? d e])
  | _ => none

/-- One group of four hexadecimal digits or fewer. -/
def group? (s : List Char) : Option Nat :=
  if 4 < s.length then none else Numeral.digits? 16 s

/-- Groups with colons between them. -/
def plainGroups? (s : List Char) : Option (List Nat) :=
  if s.isEmpty then some [] else (Text.pieces ':' s).mapM group?

/-- Groups with colons between them, of which a dotted address may be the last two. -/
def groups? (d : Dialect) (s : List Char) : Option (List Nat) :=
  if s.isEmpty then some []
  else do
    let parts := Text.pieces ':' s
    let last := parts.getLast?.getD []
    let front ← parts.dropLast.mapM group?
    match dotted? d last with
    | some bits => some (front ++ [bits / 0x10000, bits % 0x10000])
    | none => do some (front ++ [← group? last])

/-- What stands before and after the first `::`. -/
def gap? : List Char → Option (List Char × List Char)
  | ':' :: ':' :: rest => some ([], rest)
  | c :: rest => (gap? rest).map fun (before, after) => (c :: before, after)
  | [] => none

/-- The eight groups of a colon address. -/
def colonGroups? (d : Dialect) (s : List Char) : Option (List Nat) :=
  match gap? s with
  | none => (groups? d s).filter fun groups => groups.length == 8
  | some (before, after) => do
    let front ← plainGroups? before
    let back ← groups? d after
    let given := front.length + back.length
    if front.length < 8 ∧ given ≤ (if d.emptyGap then 8 else 7) then
      some (front ++ List.replicate (8 - given) 0 ++ back)
    else none

/-- An address in the given dialect. -/
def read? (d : Dialect) (s : List Char) : Option Address :=
  match dotted? d s with
  | some bits => some (ofBits .v4 bits)
  | none => (colonGroups? d s).map fun groups => ofBits .v6 (ofDigits 0x10000 groups)

/-- An address by itself. -/
def parse? (s : String) : Option Address := read? standalone s.toList

/-! ## Writing -/

/-- The digits of a number in the given base, `count` of them, the most significant first. -/
def toDigits (base : Nat) : Nat → Nat → List Nat
  | 0, _ => []
  | count + 1, n => toDigits base count (n / base) ++ [n % base]

/-- Four numbers with dots between them. -/
def dotted (bits : Nat) : String :=
  Text.joinWith "." ((toDigits 256 4 bits).map Numeral.decimal)

/-- Groups in hexadecimal with colons between them. -/
def groupText (groups : List Nat) : String :=
  Text.joinWith ":" (groups.map fun g => String.ofList (Numeral.write 16 g))

/-- How many zeros the list starts with. -/
def leadingZeros (groups : List Nat) : Nat := (groups.takeWhile (· == 0)).length

/-- Start and length of the longest run of zeros, the first of equal ones. -/
def longestZeros (groups : List Nat) : Nat × Nat :=
  (List.range groups.length).foldl (fun best start =>
    let run := leadingZeros (groups.drop start)
    if best.2 < run then (start, run) else best) (0, 0)

/--
The text of a 128-bit address: groups without leading zeros, `::` for the longest run of at least
two zero groups, and an embedded dotted address after `::ffff:`.
-/
def colonText (bits : Nat) : String :=
  let groups := toDigits 0x10000 8 bits
  if groups.take 6 = [0, 0, 0, 0, 0, 0xFFFF] then "::ffff:" ++ dotted (bits % 0x100000000)
  else
    let (start, run) := longestZeros groups
    if 1 < run then
      groupText (groups.take start) ++ "::" ++ groupText (groups.drop (start + run))
    else groupText groups

/-- The canonical text of an address. -/
def text (a : Address) : String :=
  match a.family with
  | .v4 => dotted a.bits
  | .v6 => colonText a.bits

end Address

end SiteAudit.Net

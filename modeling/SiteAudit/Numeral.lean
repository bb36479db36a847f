import SiteAudit.Text.Pieces

/-!
# Numerals

Reading and writing whole numbers: ports, VLAN ids, rule indexes, address
parts. A numeral is a non-empty run of digits; leading zeros are allowed
unless the reader of a larger form forbids them.

## Main results

* `value_append` — the place value of a numeral, digit by digit.
* `value_decimal` — writing a number and reading it back.
-/

namespace SiteAudit.Numeral

/-- The value of a digit, with letters of either case for ten and up. -/
def digit? (radix : Nat) (c : Char) : Option Nat :=
  let value :=
    if c.isDigit then c.toNat - '0'.toNat
    else if 'a' ≤ c && c ≤ 'f' then c.toNat - 'a'.toNat + 10
    else if 'A' ≤ c && c ≤ 'F' then c.toNat - 'A'.toNat + 10
    else radix
  if value < radix then some value else none

/-- The number that the digits stand for, after digits of the value `start`. -/
def value? (radix : Nat) (start : Nat) : List Char → Option Nat
  | [] => some start
  | c :: rest => do value? radix (start * radix + (← digit? radix c)) rest

/-- A non-empty run of digits, and nothing else. -/
def digits? (radix : Nat) (s : List Char) : Option Nat :=
  if s.isEmpty then none else value? radix 0 s

/-- A decimal numeral that may start with a plus sign and stands for at most `limit`. -/
def unsigned? (limit : Nat) (s : List Char) : Option Nat :=
  (digits? 10 (if s.head? = some '+' then s.tail else s)).filter (· ≤ limit)

/-- The whole numbers that fit in 64 bits with a sign. -/
def isSigned64 (n : Int) : Bool := -0x8000000000000000 ≤ n && n < 0x8000000000000000

/-- The whole numbers that fit in 64 bits without a sign. -/
def isUnsigned64 (n : Int) : Bool := 0 ≤ n && n < 0x10000000000000000

/-- A decimal numeral with an optional sign that fits in 64 bits. -/
def signed? (s : List Char) : Option Int :=
  let number? : Option Int :=
    if s.head? = some '-' then (digits? 10 s.tail).map fun n => -(n : Int)
    else if s.head? = some '+' then (digits? 10 s.tail).map Int.ofNat
    else (digits? 10 s).map Int.ofNat
  number?.filter isSigned64

/-! ## Writing -/

/-- The character of a value below sixteen, with small letters. -/
def digitChar (value : Nat) : Char :=
  if value < 10 then Char.ofNat ('0'.toNat + value) else Char.ofNat ('a'.toNat + (value - 10))

/-- The numeral of a number, without leading zeros. -/
def write (radix : Nat) (n : Nat) : List Char :=
  if _h : 1 < radix ∧ radix ≤ n then write radix (n / radix) ++ [digitChar (n % radix)]
  else [digitChar n]
termination_by n
decreasing_by exact Nat.div_lt_self (by omega) _h.1

/-- The decimal numeral of a number. -/
def decimal (n : Nat) : String := String.ofList (write 10 n)

/-- The decimal numeral of a whole number, with a minus sign below zero. -/
def signedDecimal : Int → String
  | .ofNat n => decimal n
  | .negSucc n => "-" ++ decimal (n + 1)

/-! ## Laws -/

/-- The value of two runs of digits is that of the second, read after the first. -/
theorem value_append (radix start : Nat) (s t : List Char) :
    value? radix start (s ++ t) = (value? radix start s).bind fun n => value? radix n t := by
  induction s generalizing start with
  | nil => rfl
  | cons c rest ih =>
    cases h : digit? radix c <;> simp [value?, h, ih]

theorem digit_digitChar {n : Nat} (h : n < 10) : digit? 10 (digitChar n) = some n := by
  have table : ∀ m : Fin 10, digit? 10 (digitChar m.val) = some m.val := by decide
  exact table ⟨n, h⟩

/-- Writing a number in decimal and reading it back. -/
theorem value_decimal (n : Nat) : value? 10 0 (write 10 n) = some n := by
  fun_induction write 10 n with
  | case1 n h ih =>
    rw [value_append, ih]
    simp [value?, digit_digitChar (Nat.mod_lt n (by omega)), Nat.div_add_mod']
  | case2 n h =>
    simp [value?, digit_digitChar (show n < 10 by omega)]

theorem write_ne_nil (radix n : Nat) : write radix n ≠ [] := by
  rw [write]
  split <;> simp

theorem digits_write (n : Nat) : digits? 10 (write 10 n) = some n := by
  rw [digits?, if_neg (by simpa using write_ne_nil 10 n), value_decimal]

end SiteAudit.Numeral

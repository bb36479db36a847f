import SiteAudit.Net.Address
import SiteAudit.Text.Blank

/-!
# Address blocks

A block is an address with a prefix length: all addresses of the family that
agree with it on the prefix. The address itself is kept as it was given;
`truncated` puts the first address of the block in its place.

Blocks are compared through their first and last address, as numbers.

## Main results

* `contains_iff` — membership, as an interval of numbers.
* `contains_of_covers` — a covering block has every address of the covered
  one.
* `contains_first` — the first address of a block lies in it.
-/

namespace SiteAudit.Net

-- Powers are those of the core library, whatever else is imported.
attribute [local instance (high)] instPowNat

/-- An address block. -/
structure Block where
  address : Address
  prefixLength : Nat
  fits : prefixLength ≤ address.family.width
deriving Repr, DecidableEq

namespace Block

/-- The family of the addresses in the block. -/
def family (b : Block) : Family := b.address.family

/-- How many bits the addresses of the block are free to differ in. -/
def freeBits (b : Block) : Nat := b.family.width - b.prefixLength

/-- How many addresses the block has. -/
def size (b : Block) : Nat := 2 ^ b.freeBits

/-- The bits of the first address. -/
def first (b : Block) : Nat := b.address.bits / b.size * b.size

/-- The bits of the last address. -/
def last (b : Block) : Nat := b.first + (b.size - 1)

/-- Whether the address lies in the block. -/
def contains (b : Block) (a : Address) : Bool :=
  b.family == a.family && (b.first ≤ a.bits && a.bits ≤ b.last)

/-- Whether every address of the inner block lies in the outer one. -/
def covers (outer inner : Block) : Bool :=
  outer.family == inner.family && (outer.first ≤ inner.first && inner.last ≤ outer.last)

/-- Whether one of the two blocks covers the other. -/
def overlaps (a b : Block) : Bool := a.covers b || b.covers a

/-- The block of the one address. -/
def ofAddress (a : Address) : Block := ⟨a, a.family.width, Nat.le_refl _⟩

/-- The block with these bits and this prefix length, both cut down to what the family has. -/
def ofBits (family : Family) (bits prefixLength : Nat) : Block :=
  ⟨.ofBits family bits, min prefixLength family.width, Nat.min_le_right _ _⟩

/-- The first address of the block. -/
def network (b : Block) : Address := .ofBits b.family b.first

/-- The same block, given by its first address. -/
def truncated (b : Block) : Block := ⟨b.network, b.prefixLength, b.fits⟩

/-! ## Text -/

/-- How many digits a prefix length may have. -/
def prefixDigits : Family → Nat
  | .v4 => 2
  | .v6 => 3

/-- An address, a slash and a prefix length. -/
def read? (s : List Char) : Option Block := do
  let (front, back) ← Text.cut '/' s
  let address ← Address.read? Address.inBlock front
  let length ← Numeral.digits? 10 back
  if h : length ≤ address.family.width then
    if back.length ≤ prefixDigits address.family then some ⟨address, length, h⟩ else none
  else none

/-- A block in slash notation. -/
def parse? (s : String) : Option Block := read? s.toList

/-- A block in slash notation, or an address by itself; blanks around it do not count. -/
def ofEntry? (s : String) : Option Block :=
  let s := Text.trim s
  match parse? s with
  | some b => some b
  | none => (Address.parse? s).map ofAddress

/-- A block in slash notation. -/
def text (b : Block) : String := b.address.text ++ "/" ++ Numeral.decimal b.prefixLength

/-! ## Addresses with a purpose of their own -/

/--
Blocks that the public internet does not route: private use, loopback, link-local, shared use by
carriers, the unspecified and the broadcast address, and multicast.
-/
def reserved : List Block :=
  [.ofBits .v4 0x0A000000 8, .ofBits .v4 0xAC100000 12, .ofBits .v4 0xC0A80000 16,
    .ofBits .v4 0x7F000000 8, .ofBits .v4 0xA9FE0000 16, .ofBits .v4 0x64400000 10,
    .ofBits .v4 0x00000000 32, .ofBits .v4 0xFFFFFFFF 32, .ofBits .v4 0xE0000000 4,
    .ofBits .v6 0x1 128, .ofBits .v6 0x0 128, .ofBits .v6 (0xFF00 <<< 112) 8,
    .ofBits .v6 (0xFC00 <<< 112) 7, .ofBits .v6 (0xFE80 <<< 112) 10]

/-- Whether the address can belong to a host on the public internet. -/
def isPublic (a : Address) : Bool := !reserved.any (·.contains a)

/-! ## Laws -/

theorem size_pos (b : Block) : 0 < b.size := Nat.two_pow_pos _

theorem contains_iff {b : Block} {a : Address} :
    b.contains a = true ↔ b.family = a.family ∧ b.first ≤ a.bits ∧ a.bits ≤ b.last := by
  simp [contains]

theorem covers_iff {outer inner : Block} :
    outer.covers inner = true ↔
      outer.family = inner.family ∧ outer.first ≤ inner.first ∧ inner.last ≤ outer.last := by
  simp [covers]

/-- A covering block has every address of the covered one. -/
theorem contains_of_covers {outer inner : Block} {a : Address} (h : outer.covers inner = true)
    (ha : inner.contains a = true) : outer.contains a = true := by
  rw [covers_iff] at h
  rw [contains_iff] at ha ⊢
  exact ⟨h.1.trans ha.1, Nat.le_trans h.2.1 ha.2.1, Nat.le_trans ha.2.2 h.2.2⟩

theorem overlaps_comm (a b : Block) : a.overlaps b = b.overlaps a := Bool.or_comm _ _

theorem covers_refl (b : Block) : b.covers b = true := by simp [covers]

theorem covers_trans {a b c : Block} (hab : a.covers b = true) (hbc : b.covers c = true) :
    a.covers c = true := by
  rw [covers_iff] at *
  exact ⟨hab.1.trans hbc.1, Nat.le_trans hab.2.1 hbc.2.1, Nat.le_trans hbc.2.2 hab.2.2⟩

theorem first_le_bits (b : Block) : b.first ≤ b.address.bits := Nat.div_mul_le_self _ _

theorem bits_network (b : Block) : b.network.bits = b.first :=
  Address.bits_ofBits (Nat.lt_of_le_of_lt b.first_le_bits b.address.bound)

/-- The first address of a block lies in it. -/
theorem contains_first (b : Block) : b.contains b.network = true := by
  rw [contains_iff, bits_network]
  exact ⟨rfl, Nat.le_refl _, by simp [last]⟩

end Block

end SiteAudit.Net

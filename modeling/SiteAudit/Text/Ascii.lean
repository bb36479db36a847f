/-!
# Letter case of ASCII

Protocol names, addresses and identifiers are compared without regard to
ASCII letter case. Characters outside ASCII keep their case here: `Ä` and
`ä` are two texts. (For network names, where all of Unicode counts, see
`SiteAudit.Text.LowerCase`.)
-/

namespace SiteAudit.Text

/-- `A` to `Z` become `a` to `z`; every other character stays. -/
def asciiLower (s : String) : String := String.ofList (s.toList.map Char.toLower)

/-- `a` to `z` become `A` to `Z`; every other character stays. -/
def asciiUpper (s : String) : String := String.ofList (s.toList.map Char.toUpper)

/-- Equality up to ASCII letter case. -/
def sameAsciiFold (a b : String) : Bool := asciiLower a == asciiLower b

@[simp] theorem sameAsciiFold_self (a : String) : sameAsciiFold a a = true := by
  simp [sameAsciiFold]

theorem sameAsciiFold_comm (a b : String) : sameAsciiFold a b = sameAsciiFold b a := by
  rw [sameAsciiFold, sameAsciiFold, Bool.beq_comm]

/-- A character is its own small form, or one of the capitals. -/
theorem toLower_eq_self_or (c : Char) :
    c.toLower = c ∨ (65 ≤ c.toNat ∧ c.toNat ≤ 90 ∧ c.toLower.toNat = c.toNat + 32) := by
  unfold Char.toLower
  split
  · next hupper =>
    have hlow : 65 ≤ c.toNat := hupper.1
    have hhigh : c.toNat ≤ 90 := hupper.2
    refine Or.inr ⟨hlow, hhigh, ?_⟩
    show (c.val + 32).toNat = c.toNat + 32
    rw [UInt32.toNat_add]
    show (c.toNat + 32) % 4294967296 = c.toNat + 32
    omega
  · exact Or.inl rfl

end SiteAudit.Text

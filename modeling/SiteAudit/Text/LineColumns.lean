import SiteAudit.Text.Columns

/-!
# Terminal columns of lines

The columns of a line are those of its characters, except where several
characters are shown as one. A line is read from its end, since it is the
character behind that changes how one is shown:

* a variation selector makes the symbol before it an emoji or plain text;
* a skin tone is shown on the emoji before it;
* emoji with joiners between them are shown as one;
* a lam before an alef is written in one with it, whatever marks are between;
* a Khmer letter under a subscript sign takes no columns of its own.

## Main results

* `lineColumns_of_ascii` — a line of printable ASCII has as many columns as
  characters.
-/

namespace SiteAudit.Text

/-! ## Characters that change with their neighbours -/

/-- Where emoji are found among the wide characters; ideographs are not among them. -/
def emojiBlocks : Ranges :=
  [(0x231A, 0x231B), (0x23E9, 0x2615), (0x2648, 0x267F), (0x2693, 0x2B55), (0x1F004, 0x1F19A),
    (0x1F201, 0x1F201), (0x1F21A, 0x1F21A), (0x1F22F, 0x1F22F), (0x1F232, 0x1F236),
    (0x1F238, 0x1F23A), (0x1F250, 0x1F251), (0x1F300, 0x1F3FA), (0x1F400, 0x1FAFF)]

/-- Whether the character is shown as an emoji by itself. -/
def isEmoji (c : Char) : Bool := emojiBlocks.holds c && wideRanges.holds c

/-- Wide symbols that become narrow before the text variation selector U+FE0E. -/
def textRanges : Ranges :=
  [(0x231A, 0x231B), (0x23E9, 0x23EA), (0x23F3, 0x23F3), (0x25FD, 0x25FE), (0x2614, 0x2615),
    (0x2648, 0x2653), (0x267F, 0x267F), (0x2693, 0x2693), (0x26A1, 0x26A1), (0x26AA, 0x26AB),
    (0x26BD, 0x26BE), (0x26C4, 0x26C5), (0x26D4, 0x26D4), (0x26EA, 0x26EA), (0x26F2, 0x26F3),
    (0x26F5, 0x26F5), (0x26FA, 0x26FA), (0x26FD, 0x26FD), (0x2753, 0x2753), (0x2757, 0x2757),
    (0x2B1B, 0x2B1C), (0x2B50, 0x2B50), (0x2B55, 0x2B55), (0x1F004, 0x1F004), (0x1F30D, 0x1F30F),
    (0x1F315, 0x1F315), (0x1F31C, 0x1F31C), (0x1F378, 0x1F378), (0x1F393, 0x1F393),
    (0x1F3A7, 0x1F3A7), (0x1F3AC, 0x1F3AE), (0x1F3C2, 0x1F3C2), (0x1F3C4, 0x1F3C4),
    (0x1F3C6, 0x1F3C6), (0x1F3CA, 0x1F3CA), (0x1F3E0, 0x1F3E0), (0x1F3ED, 0x1F3ED),
    (0x1F408, 0x1F408), (0x1F415, 0x1F415), (0x1F41F, 0x1F41F), (0x1F426, 0x1F426),
    (0x1F442, 0x1F442), (0x1F446, 0x1F449), (0x1F44D, 0x1F44E), (0x1F453, 0x1F453),
    (0x1F46A, 0x1F46A), (0x1F47D, 0x1F47D), (0x1F4A3, 0x1F4A3), (0x1F4B0, 0x1F4B0),
    (0x1F4B3, 0x1F4B3), (0x1F4BB, 0x1F4BB), (0x1F4BF, 0x1F4BF), (0x1F4CB, 0x1F4CB),
    (0x1F4DA, 0x1F4DA), (0x1F4DF, 0x1F4DF), (0x1F4E4, 0x1F4E6), (0x1F4EA, 0x1F4ED),
    (0x1F4F7, 0x1F4F7), (0x1F4F9, 0x1F4FB), (0x1F508, 0x1F508), (0x1F50D, 0x1F50D),
    (0x1F512, 0x1F513), (0x1F550, 0x1F567), (0x1F610, 0x1F610), (0x1F687, 0x1F687),
    (0x1F68D, 0x1F68D), (0x1F691, 0x1F691), (0x1F694, 0x1F694), (0x1F698, 0x1F698),
    (0x1F6AD, 0x1F6AD), (0x1F6B2, 0x1F6B2), (0x1F6B9, 0x1F6BA), (0x1F6BC, 0x1F6BC)]

/-- Whether the character is a skin tone. -/
def isSkinTone (c : Char) : Bool := 0x1F3FB ≤ c.toNat && c.toNat ≤ 0x1F3FF

/-- Symbols that can have a skin tone. -/
def skinRanges : Ranges :=
  [(0x261D, 0x261D), (0x26F9, 0x26F9), (0x270A, 0x270D), (0x1F385, 0x1F385), (0x1F3C2, 0x1F3C4),
    (0x1F3C7, 0x1F3C7), (0x1F3CA, 0x1F3CC), (0x1F442, 0x1F443), (0x1F446, 0x1F450),
    (0x1F466, 0x1F478), (0x1F47C, 0x1F47C), (0x1F481, 0x1F483), (0x1F485, 0x1F487),
    (0x1F48F, 0x1F48F), (0x1F491, 0x1F491), (0x1F4AA, 0x1F4AA), (0x1F574, 0x1F575),
    (0x1F57A, 0x1F57A), (0x1F590, 0x1F590), (0x1F595, 0x1F596), (0x1F645, 0x1F647),
    (0x1F64B, 0x1F64F), (0x1F6A3, 0x1F6A3), (0x1F6B4, 0x1F6B6), (0x1F6C0, 0x1F6C0),
    (0x1F6CC, 0x1F6CC), (0x1F90C, 0x1F90C), (0x1F90F, 0x1F90F), (0x1F918, 0x1F91F),
    (0x1F926, 0x1F926), (0x1F930, 0x1F939), (0x1F93C, 0x1F93E), (0x1F977, 0x1F977),
    (0x1F9B5, 0x1F9B6), (0x1F9B8, 0x1F9B9), (0x1F9BB, 0x1F9BB), (0x1F9CD, 0x1F9CF),
    (0x1F9D1, 0x1F9DD), (0x1FAC3, 0x1FAC5), (0x1FAF0, 0x1FAF8)]

/-- The letters alef. -/
def alefRanges : Ranges :=
  [(0x0622, 0x0623), (0x0625, 0x0625), (0x0627, 0x0627), (0x0671, 0x0673), (0x0675, 0x0675),
    (0x0773, 0x0774), (0x0870, 0x0882)]

/-- The letters lam. -/
def lamRanges : Ranges :=
  [(0x0644, 0x0644), (0x06B5, 0x06B8), (0x076A, 0x076A), (0x08A6, 0x08A6), (0x08C7, 0x08C7)]

/-- The Khmer letters that can be written as a subscript. -/
def subscriptRanges : Ranges :=
  [(0x1780, 0x1782), (0x1784, 0x1787), (0x1789, 0x178C), (0x178E, 0x1793), (0x1795, 0x1798),
    (0x179B, 0x179D), (0x17A0, 0x17A0), (0x17A2, 0x17A2), (0x17A7, 0x17A7), (0x17AB, 0x17AC),
    (0x17AF, 0x17AF)]

/-- The joiner between emoji. -/
def joiner : Char := '\u200D'

/-- The selector that makes the symbol before it an emoji. -/
def emojiSelector : Char := '\uFE0F'

/-- The selector that makes the symbol before it plain text. -/
def textSelector : Char := '\uFE0E'

/-- The sign that makes the Khmer letter after it a subscript. -/
def subscriptSign : Char := '\u17D2'

/-! ## Lines -/

/-- What stands behind a character, as far as that changes how it is shown. -/
inductive Behind where
  | nothing
  /-- The emoji selector, and whether a joiner stands behind that. -/
  | emojiSelector (joined : Bool)
  | textSelector
  /-- A character or several that are shown as one emoji. -/
  | emoji
  | skinTone
  /-- A joiner with an emoji behind it. -/
  | joiner
  /-- An alef, perhaps with marks before it. -/
  | alef
  /-- A Khmer letter that can be a subscript. -/
  | subscript
deriving Repr, DecidableEq

/-- What a character is to the one before it, by itself. -/
def Behind.ofChar (c : Char) : Behind :=
  if c.toNat < 0xA0 then .nothing
  else if c == Text.emojiSelector then .emojiSelector false
  else if c == Text.textSelector then .textSelector
  else if isSkinTone c then .skinTone
  else if isEmoji c then .emoji
  else if alefRanges.holds c then .alef
  else if subscriptRanges.holds c then .subscript
  else .nothing

/-- How a character is shown together with what stands behind it, if that makes a difference. -/
def together? (c : Char) : Behind → Option (Nat × Behind)
  | .nothing => none
  | .emojiSelector joined =>
    if turnsWide c then some (if joined then 0 else 2, .emoji)
    else if joined && isEmoji c then some (0, .emoji)
    else none
  | .textSelector => if textRanges.holds c then some (1, .nothing) else none
  | .emoji => if c == Text.joiner then some (0, .joiner) else none
  | .skinTone =>
    if skinRanges.holds c then some (0, .emoji)
    else if c == Text.joiner then some (0, .joiner)
    else none
  | .joiner =>
    if c == Text.emojiSelector then some (0, .emojiSelector true)
    else if isSkinTone c then some (0, .skinTone)
    else if isEmoji c then some (0, .emoji)
    else none
  | .alef =>
    if lamRanges.holds c then some (0, .nothing)
    else if zeroWidthRanges.holds c && c != Text.joiner then some (0, .alef)
    else none
  | .subscript => none

/-- The columns of a line with one more character before it, and what that is to the next one. -/
def before (c : Char) (line : Nat × Behind) : Nat × Behind :=
  if line.2 == .subscript && c == subscriptSign then (line.1 - 1, .nothing)
  else match together? c line.2 with
    | some (columns, behind) => (columns + line.1, behind)
    | none => (charColumns c + line.1, .ofChar c)

/-- The columns of a line. -/
def lineColumns (s : List Char) : Nat := (s.foldr before (0, .nothing)).1

/-! ## Laws -/

theorem before_of_ascii {c : Char} (h : c.toNat < 0xA0) (n : Nat) :
    before c (n, .nothing) = (n + 1, .nothing) := by
  have hs : (Behind.nothing == Behind.subscript) = false := rfl
  simp [before, hs, together?, charColumns, Behind.ofChar, h, Nat.add_comm]

/-- A line of printable ASCII has as many columns as characters. -/
theorem lineColumns_of_ascii {s : List Char} (h : ∀ c ∈ s, c.toNat < 0xA0) :
    lineColumns s = s.length := by
  suffices general : s.foldr before (0, .nothing) = (s.length, Behind.nothing) by
    simp [lineColumns, general]
  induction s with
  | nil => rfl
  | cons c rest ih =>
    rw [List.foldr_cons, ih fun x hx => h x (List.mem_cons_of_mem _ hx),
      before_of_ascii (h c List.mem_cons_self), List.length_cons]

end SiteAudit.Text

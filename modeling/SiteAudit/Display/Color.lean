import SiteAudit.Numeral
import SiteAudit.Text.Ascii

/-!
# Color

Text in color, by the control sequences of terminals. A sequence turns a
style on before the text, and another one turns it off behind it.
-/

namespace SiteAudit

/-- When results are shown in color. -/
inductive ColorMode where
  /-- On terminals only. -/
  | auto
  | always
  | never
deriving Repr, DecidableEq

namespace ColorMode

/-- All modes. -/
def all : List ColorMode := [auto, always, never]

/-- The name of a mode. -/
def id : ColorMode → String
  | auto => "auto"
  | always => "always"
  | never => "never"

/-- The mode with exactly this name. -/
def ofId? (id : String) : Option ColorMode := all.find? (·.id == id)

/-- The mode with this name; ASCII letter case is free. -/
def parse? (text : String) : Option ColorMode := all.find? fun m => Text.sameAsciiFold m.id text

/-- Every mode is found by its own name. -/
theorem parse_id (m : ColorMode) : ofId? m.id = some m ∧ parse? m.id = some m := by
  cases m <;> decide

end ColorMode

/-- A color of text. -/
inductive Hue where
  | red
  | green
  | yellow
  | cyan
deriving Repr, DecidableEq

namespace Hue

/-- The number by which terminals know a color. -/
def number : Hue → Nat
  | red => 31
  | green => 32
  | yellow => 33
  | cyan => 36

/-- The control sequence with a number. -/
def control (number : Nat) : String := "\x1b[" ++ Numeral.decimal number ++ "m"

/-- Text in a color. -/
def paint (hue : Hue) (text : String) : String := control hue.number ++ text ++ control 39

/-- Text in a color and in bold letters. -/
def paintBold (hue : Hue) (text : String) : String := control 1 ++ hue.paint text ++ control 0

end Hue

end SiteAudit

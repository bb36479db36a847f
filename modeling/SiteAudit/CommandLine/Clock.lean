import SiteAudit.Numeral
import SiteAudit.Text.Pieces

/-!
# The time of a run

Dates of the Gregorian calendar and the text of a moment, in universal time.
Years are counted from March, so that a leap day comes last.

## Main results

* `ofDays_add_cycle` — the calendar repeats after four hundred years.
-/

namespace SiteAudit.CommandLine

/-- A day of the Gregorian calendar. -/
structure Date where
  year : Nat
  month : Nat
  day : Nat
deriving Repr, DecidableEq

namespace Date

/-- The days from the first of March in the year zero to the first of January 1970. -/
def daysBeforeEpoch : Nat := 719468

/-- The days in four hundred years. -/
def daysOfCycle : Nat := 146097

/-- The day that comes so many days after the first of January 1970. -/
def ofDays (days : Nat) : Date :=
  let cycle := (days + daysBeforeEpoch) / daysOfCycle
  let day := (days + daysBeforeEpoch) % daysOfCycle
  let year := (day - day / 1460 + day / 36524 - day / (daysOfCycle - 1)) / 365
  let day := day - (365 * year + year / 4 - year / 100)
  let month := (5 * day + 2) / 153
  { year := 400 * cycle + year + (if month < 10 then 0 else 1)
    month := if month < 10 then month + 3 else month - 9
    day := day - (153 * month + 2) / 5 + 1 }

/-- The calendar repeats after four hundred years. -/
theorem ofDays_add_cycle (days : Nat) :
    ofDays (days + daysOfCycle) = { ofDays days with year := (ofDays days).year + 400 } := by
  have hcycle : (days + daysOfCycle + daysBeforeEpoch) / daysOfCycle =
      (days + daysBeforeEpoch) / daysOfCycle + 1 := by
    rw [Nat.add_right_comm, Nat.add_div_right _ (by decide)]
  have hday : (days + daysOfCycle + daysBeforeEpoch) % daysOfCycle =
      (days + daysBeforeEpoch) % daysOfCycle := by
    rw [Nat.add_right_comm, Nat.add_mod_right]
  rw [ofDays, hcycle, hday]
  simp only [ofDays, Date.mk.injEq, and_true]
  omega

/-- A leap day in a year that ends a century, and the next one like it. -/
example : ofDays 11016 = ⟨2000, 2, 29⟩ ∧ ofDays (11016 + 146097) = ⟨2400, 2, 29⟩ := by decide

end Date

/-- A number with zeros before it, so that it has so many digits. -/
def digits (count n : Nat) : String := String.ofList ((Numeral.write 10 n).leftpad count '0')

/-- The nanoseconds of a second after a point, in groups of three digits as far as they matter. -/
def fraction (nanoseconds : Nat) : String :=
  if nanoseconds == 0 then ""
  else if nanoseconds % 1000000 == 0 then "." ++ digits 3 (nanoseconds / 1000000)
  else if nanoseconds % 1000 == 0 then "." ++ digits 6 (nanoseconds / 1000)
  else "." ++ digits 9 nanoseconds

/-- The text of a moment, given by seconds since the start of 1970 and nanoseconds. -/
def timeText (seconds nanoseconds : Nat) : String :=
  let date := Date.ofDays (seconds / 86400)
  let time := seconds % 86400
  Text.joinWith "-" [digits 4 date.year, digits 2 date.month, digits 2 date.day] ++ "T" ++
    Text.joinWith ":" [digits 2 (time / 3600), digits 2 (time / 60 % 60), digits 2 (time % 60)] ++
    fraction nanoseconds ++ "+00:00"

end SiteAudit.CommandLine

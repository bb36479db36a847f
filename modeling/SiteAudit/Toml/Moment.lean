import SiteAudit.Numeral

/-!
# Dates and times

The four forms of a moment in a document: a date, a time, both, and both
with an offset. Only days that exist count; a minute may have a leap second.

## Main results

* `length_of_afterDate` — every date has ten characters.
-/

namespace SiteAudit.Toml

/-- A number of exactly so many digits, and the rest. -/
def fixedDigits? (count : Nat) (s : List Char) : Option (Nat × List Char) :=
  if count ≤ s.length then (Numeral.digits? 10 (s.take count)).map (·, s.drop count) else none

/-- How many days a month has. -/
def daysIn (year month : Nat) : Nat :=
  if month = 2 then
    if year % 4 = 0 ∧ (year % 100 ≠ 0 ∨ year % 400 = 0) then 29 else 28
  else if month ∈ [4, 6, 9, 11] then 30
  else 31

/-- The rest after a given character. -/
def after? (c : Char) (s : List Char) : Option (List Char) :=
  if s.head? = some c then some s.tail else none

/-- The rest after a date. -/
def afterDate? (s : List Char) : Option (List Char) := do
  let (year, s) ← fixedDigits? 4 s
  let (month, s) ← fixedDigits? 2 (← after? '-' s)
  let (day, s) ← fixedDigits? 2 (← after? '-' s)
  if 1 ≤ month ∧ month ≤ 12 ∧ 1 ≤ day ∧ day ≤ daysIn year month then some s else none

/-- The rest after hours and minutes. -/
def afterClock? (s : List Char) : Option (List Char) := do
  let (hour, s) ← fixedDigits? 2 s
  let (minute, s) ← fixedDigits? 2 (← after? ':' s)
  if hour < 24 ∧ minute < 60 then some s else none

/-- The rest after a fraction of a second, if there is one. -/
def afterFraction? (s : List Char) : Option (List Char) :=
  match after? '.' s with
  | none => some s
  | some s => if s.head?.any Char.isDigit then some (s.dropWhile Char.isDigit) else none

/-- The rest after a time. -/
def afterTime? (s : List Char) : Option (List Char) := do
  let (second, s) ← fixedDigits? 2 (← after? ':' (← afterClock? s))
  if second ≤ 60 then afterFraction? s else none

/-- Whether the text is an offset, or nothing. -/
def isOffset (s : List Char) : Bool :=
  match s with
  | [] => true
  | c :: s =>
    if c == 'Z' || c == 'z' then s.isEmpty
    else (c == '+' || c == '-') && afterClock? s == some []

/-- Whether the text is a time with or without an offset. -/
def isZonedTime (s : List Char) : Bool := (afterTime? s).any isOffset

/-- Whether the text is a date, a time, or both with a `T` or a blank between them. -/
def isMoment (s : List Char) : Bool :=
  match afterDate? s with
  | some [] => true
  | some (c :: s) => (c == 'T' || c == 't' || c == ' ') && isZonedTime s
  | none => afterTime? s == some []

theorem length_of_fixedDigits {count n : Nat} {s rest : List Char}
    (h : fixedDigits? count s = some (n, rest)) : s.length = rest.length + count := by
  rw [fixedDigits?] at h
  split at h
  · next hlength =>
    obtain ⟨_, _, hpair⟩ := Option.map_eq_some_iff.1 h
    cases hpair
    rw [List.length_drop]
    omega
  · cases h

theorem length_of_after {c : Char} {s rest : List Char} (h : after? c s = some rest) :
    s.length = rest.length + 1 := by
  rw [after?] at h
  split at h
  · next hhead =>
    cases h
    cases s with
    | nil => cases hhead
    | cons d s => rfl
  · cases h

/-- Every date has ten characters. -/
theorem length_of_afterDate {s rest : List Char} (h : afterDate? s = some rest) :
    s.length = rest.length + 10 := by
  simp only [afterDate?, Option.bind_eq_bind, Option.bind_eq_some_iff] at h
  obtain ⟨⟨year, s₁⟩, hyear, s₂, hdash, ⟨month, s₃⟩, hmonth, s₄, hdash', ⟨day, s₅⟩, hday, hrest⟩ :=
    h
  have h₁ := length_of_fixedDigits hyear
  have h₂ : s₁.length = s₂.length + 1 := length_of_after hdash
  have h₃ := length_of_fixedDigits hmonth
  have h₄ : s₃.length = s₄.length + 1 := length_of_after hdash'
  have h₅ := length_of_fixedDigits hday
  split at hrest
  · cases hrest
    change s.length = s₅.length + 10
    omega
  · cases hrest

end SiteAudit.Toml

import SiteAudit.Text.Ranges

/-!
# Blank characters and trimming

Controller exports are typed in by people, so almost every text is trimmed
before it is looked at. Blank is every character with the Unicode
`White_Space` property, not only the ASCII ones.

## Main results

* `trimChars_of_ends` — text whose ends are not blank is left alone.
* `head_trimChars`, `getLast_trimChars` — the ends of a trimmed text are
  not blank.
* `exists_blanks_around` — a text is its trimmed form with blanks around it.
* `trim_trim` — trimming twice is trimming once.
-/

namespace SiteAudit.Text

/-- The twenty-five characters with the `White_Space` property. -/
def blankRanges : Ranges :=
  [(0x09, 0x0D), (0x20, 0x20), (0x85, 0x85), (0xA0, 0xA0), (0x1680, 0x1680), (0x2000, 0x200A),
    (0x2028, 0x2029), (0x202F, 0x202F), (0x205F, 0x205F), (0x3000, 0x3000)]

/-- Whether a character counts as white space. -/
def isBlank (c : Char) : Bool := blankRanges.holds c

/-- The characters from the last one that is not blank on are dropped. -/
def trimEnd (s : List Char) : List Char := (s.reverse.dropWhile isBlank).reverse

/-- Blanks are dropped from both ends. -/
def trimChars (s : List Char) : List Char := trimEnd (s.dropWhile isBlank)

/-- Blanks are dropped from both ends. -/
def trim (s : String) : String := String.ofList (trimChars s.toList)

/-- The trimmed text, unless nothing is left of it. -/
def nonBlank? (s : String) : Option String :=
  if (trim s).isEmpty then none else some (trim s)

/-! ## Laws -/

theorem dropWhile_of_head {p : Char → Bool} {s : List Char}
    (h : ∀ c ∈ s.head?, p c = false) : s.dropWhile p = s := by
  cases s with
  | nil => rfl
  | cons c rest => simp [h c (by simp)]

theorem head_dropWhile {p : Char → Bool} {s : List Char} :
    ∀ c ∈ (s.dropWhile p).head?, p c = false := by
  induction s with
  | nil => simp
  | cons a rest ih =>
    by_cases h : p a
    · simpa [List.dropWhile_cons, h] using ih
    · simp [h]

theorem getLast_trimEnd {s : List Char} : ∀ c ∈ (trimEnd s).getLast?, isBlank c = false := by
  simpa [trimEnd, List.getLast?_reverse] using head_dropWhile (p := isBlank) (s := s.reverse)

theorem trimEnd_of_last {s : List Char} (h : ∀ c ∈ s.getLast?, isBlank c = false) :
    trimEnd s = s := by
  rw [trimEnd, dropWhile_of_head (by simpa using h), List.reverse_reverse]

theorem head_trimEnd {s : List Char} (h : ∀ c ∈ s.head?, isBlank c = false) :
    ∀ c ∈ (trimEnd s).head?, isBlank c = false := by
  cases s with
  | nil => simp [trimEnd]
  | cons a rest =>
    intro c hc
    have ha : isBlank a = false := h a (by simp)
    rw [trimEnd, List.reverse_cons, List.dropWhile_append] at hc
    split at hc
    · simp [ha] at hc
      exact hc ▸ ha
    · simp at hc
      exact hc ▸ ha

/-- Text whose ends are not blank is left alone. -/
theorem trimChars_of_ends {s : List Char} (first : ∀ c ∈ s.head?, isBlank c = false)
    (last : ∀ c ∈ s.getLast?, isBlank c = false) : trimChars s = s := by
  rw [trimChars, dropWhile_of_head first, trimEnd_of_last last]

theorem head_trimChars {s : List Char} : ∀ c ∈ (trimChars s).head?, isBlank c = false :=
  head_trimEnd head_dropWhile

theorem getLast_trimChars {s : List Char} : ∀ c ∈ (trimChars s).getLast?, isBlank c = false :=
  getLast_trimEnd

/-- Blanks before a text do not count. -/
theorem trimChars_append_left {front : List Char} (h : ∀ c ∈ front, isBlank c = true)
    (s : List Char) : trimChars (front ++ s) = trimChars s := by
  rw [trimChars, trimChars, List.dropWhile_append_of_pos h]

theorem trimEnd_append {back : List Char} (h : ∀ c ∈ back, isBlank c = true) (s : List Char) :
    trimEnd (s ++ back) = trimEnd s := by
  have hback : ∀ c ∈ back.reverse, isBlank c = true := fun c hc => h c (List.mem_reverse.1 hc)
  rw [trimEnd, trimEnd, List.reverse_append, List.dropWhile_append_of_pos hback]

/-- Blanks after a text do not count. -/
theorem trimChars_append_right {back : List Char} (h : ∀ c ∈ back, isBlank c = true)
    (s : List Char) : trimChars (s ++ back) = trimChars s := by
  rw [trimChars, trimChars, List.dropWhile_append]
  split
  · next hempty =>
    rw [List.isEmpty_iff.1 hempty, ← List.nil_append (back.dropWhile isBlank)]
    exact trimEnd_append (fun c hc => h c ((List.dropWhile_sublist _).subset hc)) []
  · exact trimEnd_append h _

/-- A text is its trimmed form with blanks around it. -/
theorem exists_blanks_around (s : List Char) :
    ∃ front back, s = front ++ (trimChars s ++ back) ∧ (∀ c ∈ front, isBlank c = true) ∧
      ∀ c ∈ back, isBlank c = true := by
  refine ⟨s.takeWhile isBlank, ((s.dropWhile isBlank).reverse.takeWhile isBlank).reverse, ?_,
    ?_, ?_⟩
  · rw [trimChars, trimEnd, ← List.reverse_append, List.takeWhile_append_dropWhile,
      List.reverse_reverse, List.takeWhile_append_dropWhile]
  · exact List.all_eq_true.1 List.all_takeWhile
  · exact fun c hc => List.all_eq_true.1 List.all_takeWhile c (List.mem_reverse.1 hc)

/-- Trimming twice is trimming once. -/
theorem trim_trim (s : String) : trim (trim s) = trim s := by
  simp only [trim, String.toList_ofList]
  rw [trimChars_of_ends head_trimChars getLast_trimChars]

end SiteAudit.Text

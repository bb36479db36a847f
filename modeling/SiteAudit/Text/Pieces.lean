/-!
# Pieces of a text

Splitting at a character, cutting at the first occurrence of one, and
looking for a text inside another or for all its places there, all on lists
of characters.

## Main results

* `joinWith_pieces` — joining the pieces again gives the text back.
* `pieces_append_separator` — the pieces of two texts with a separator between
  them.
* `cut_eq_some` — a cut text is what stands before, the character, and what
  stands after.
* `occursIn_iff` — what it means that a text occurs in another.
* `eq_of_mem_places`, `mem_places` — which occurrences of a word are found when
  the search goes on behind each one.
-/

namespace SiteAudit.Text

/-- The pieces between the separators; a text without one is its own only piece. -/
def pieces (separator : Char) : List Char → List (List Char)
  | [] => [[]]
  | c :: rest =>
    if c = separator then [] :: pieces separator rest
    else match pieces separator rest with
      | [] => [[c]]
      | piece :: more => (c :: piece) :: more

/-- What stands before and after the first occurrence of a character. -/
def cut (separator : Char) : List Char → Option (List Char × List Char)
  | [] => none
  | c :: rest =>
    if c = separator then some ([], rest)
    else (cut separator rest).map fun (before, after) => (c :: before, after)

/-- Whether the word occurs somewhere in the text. -/
def occursIn (word : List Char) : List Char → Bool
  | [] => word.isEmpty
  | c :: rest => word.isPrefixOf (c :: rest) || occursIn word rest

/--
The places of a word in a text, from left to right, each as what stands before and after it. The
search goes on behind each place, so that no two overlap: the first `skip` characters belong to a
place that was found before.
-/
def placesFrom (word : List Char) : (skip : Nat) → List Char → List (List Char × List Char)
  | _, [] => if word.isEmpty then [([], [])] else []
  | skip + 1, c :: rest =>
    (placesFrom word skip rest).map fun (before, after) => (c :: before, after)
  | 0, c :: rest =>
    if word.isPrefixOf (c :: rest) then
      ([], (c :: rest).drop word.length) ::
        (placesFrom word (word.length - 1) rest).map fun (before, after) => (c :: before, after)
    else (placesFrom word 0 rest).map fun (before, after) => (c :: before, after)

/-- The places of a word in a text that do not overlap, from left to right. -/
def places (word s : List Char) : List (List Char × List Char) := placesFrom word 0 s

/-- Texts with a separator between each two. -/
def joinWith (separator : String) (texts : List String) : String :=
  String.intercalate separator texts

/-! ## Laws -/

theorem pieces_ne_nil (separator : Char) (s : List Char) : pieces separator s ≠ [] := by
  induction s with
  | nil => simp [pieces]
  | cons c rest ih =>
    rw [pieces]
    split
    · simp
    · split <;> simp

/-- Joining the pieces again gives the text back. -/
theorem joinWith_pieces (separator : Char) (s : List Char) :
    [separator].intercalate (pieces separator s) = s := by
  induction s with
  | nil => simp [pieces, List.intercalate]
  | cons c rest ih =>
    rw [pieces]
    cases h : pieces separator rest with
    | nil => exact absurd h (pieces_ne_nil separator rest)
    | cons piece more =>
      rw [h] at ih
      split
      · next hc =>
        subst hc
        simpa [List.intercalate, List.intersperse] using ih
      · cases more with
        | nil => simpa [List.intercalate] using ih
        | cons second rest => simpa [List.intercalate, List.intersperse] using ih

theorem pieces_of_not_mem {separator : Char} {s : List Char} (h : separator ∉ s) :
    pieces separator s = [s] := by
  induction s with
  | nil => rfl
  | cons c rest ih =>
    simp only [List.mem_cons, not_or] at h
    rw [pieces, if_neg (Ne.symm h.1), ih h.2]

/-- The pieces of two texts with a separator between them. -/
theorem pieces_append_separator (separator : Char) (s t : List Char) :
    pieces separator (s ++ separator :: t) = pieces separator s ++ pieces separator t := by
  induction s with
  | nil => simp [pieces]
  | cons c rest ih =>
    rw [List.cons_append, pieces, pieces, ih]
    split
    · rfl
    · obtain ⟨first, more, hpieces⟩ := List.exists_cons_of_ne_nil (pieces_ne_nil separator rest)
      rw [hpieces]
      rfl

/-- A text without separators goes to the first piece of what follows. -/
theorem pieces_append_of_not_mem {separator : Char} {s : List Char} (h : separator ∉ s)
    {t first : List Char} {rest : List (List Char)} (ht : pieces separator t = first :: rest) :
    pieces separator (s ++ t) = (s ++ first) :: rest := by
  induction s with
  | nil => exact ht
  | cons c s ih =>
    simp only [List.mem_cons, not_or] at h
    rw [List.cons_append, pieces, if_neg (Ne.symm h.1), ih h.2]
    rfl

/-- A text without separators goes to the last piece of what stands before. -/
theorem exists_pieces_append_of_not_mem {separator : Char} {t : List Char} (h : separator ∉ t)
    (s : List Char) :
    ∃ before last, pieces separator s = before ++ [last] ∧
      pieces separator (s ++ t) = before ++ [last ++ t] := by
  induction s with
  | nil => exact ⟨[], [], rfl, pieces_of_not_mem h⟩
  | cons c s ih =>
    obtain ⟨before, last, hs, hst⟩ := ih
    rw [List.cons_append, pieces, pieces, hs, hst]
    split
    · exact ⟨[] :: before, last, rfl, rfl⟩
    · cases before with
      | nil => exact ⟨[], c :: last, rfl, rfl⟩
      | cons first before => exact ⟨(c :: first) :: before, last, rfl, rfl⟩

/-- A cut text is what stands before, the character, and what stands after. -/
theorem cut_eq_some {separator : Char} {s before after : List Char}
    (h : cut separator s = some (before, after)) :
    s = before ++ separator :: after ∧ separator ∉ before := by
  induction s generalizing before after with
  | nil => simp [cut] at h
  | cons c rest ih =>
    rw [cut] at h
    split at h
    · next hc =>
      simp only [Option.some.injEq, Prod.mk.injEq] at h
      simp [← h.1, ← h.2, hc]
    · next hc =>
      obtain ⟨⟨b, a⟩, hba, heq⟩ := Option.map_eq_some_iff.1 h
      simp only [Prod.mk.injEq] at heq
      obtain ⟨hs, hnot⟩ := ih hba
      subst hs
      simp only [← heq.1, ← heq.2, List.cons_append, true_and, List.mem_cons, not_or]
      exact ⟨fun h => hc h.symm, hnot⟩

theorem cut_append {separator : Char} {before : List Char} (h : separator ∉ before)
    (after : List Char) : cut separator (before ++ separator :: after) = some (before, after) := by
  induction before with
  | nil => simp [cut]
  | cons c rest ih =>
    simp only [List.mem_cons, not_or] at h
    rw [List.cons_append, cut, if_neg (Ne.symm h.1), ih h.2, Option.map_some]

/-- A word occurs in a text exactly when the text is something, the word, and something. -/
theorem occursIn_iff {word s : List Char} :
    occursIn word s = true ↔ ∃ before after, s = before ++ word ++ after := by
  induction s with
  | nil =>
    simp only [occursIn, List.isEmpty_iff, List.nil_eq, List.append_assoc,
      List.append_eq_nil_iff]
    exact ⟨fun h => ⟨[], [], rfl, h, rfl⟩, fun ⟨_, _, h⟩ => h.2.1⟩
  | cons c rest ih =>
    simp only [occursIn, Bool.or_eq_true, ih, List.isPrefixOf_iff_prefix]
    constructor
    · rintro (⟨after, h⟩ | ⟨before, after, h⟩)
      · exact ⟨[], after, by simpa using h.symm⟩
      · exact ⟨c :: before, after, by simp [h]⟩
    · rintro ⟨before, after, h⟩
      cases before with
      | nil => exact Or.inl ⟨after, by simpa using h.symm⟩
      | cons b before =>
        simp only [List.cons_append, List.cons.injEq] at h
        exact Or.inr ⟨before, after, h.2⟩

/-! ### Places of a word -/

variable {word s before after : List Char}

theorem mem_map_cons_iff {c : Char} {found : List (List Char × List Char)} :
    (before, after) ∈ found.map (fun (b, a) => (c :: b, a)) ↔
      ∃ b, before = c :: b ∧ (b, after) ∈ found := by
  simp only [List.mem_map, Prod.exists, Prod.mk.injEq]
  constructor
  · rintro ⟨b, a, hmem, hbefore, rfl⟩
    exact ⟨b, hbefore.symm, hmem⟩
  · rintro ⟨b, rfl, hmem⟩
    exact ⟨b, after, hmem, rfl, rfl⟩

theorem eq_of_mem_placesFrom {skip : Nat} (h : (before, after) ∈ placesFrom word skip s) :
    s = before ++ word ++ after := by
  fun_induction placesFrom word skip s generalizing before with
  | case1 skip hword =>
      simp only [List.mem_singleton, Prod.mk.injEq] at h
      rw [h.1, h.2, List.isEmpty_iff.1 hword]
      rfl
  | case2 skip hword => cases h
  | case3 skip c rest ih =>
      obtain ⟨b, rfl, hmem⟩ := mem_map_cons_iff.1 h
      rw [ih hmem]
      rfl
  | case4 c rest hprefix ih =>
      rcases List.mem_cons.1 h with heq | hlater
      · obtain ⟨tail, htail⟩ := List.isPrefixOf_iff_prefix.1 hprefix
        rw [← htail, List.drop_left] at heq
        obtain ⟨rfl, rfl⟩ := Prod.mk.inj heq
        exact htail.symm
      · obtain ⟨b, rfl, hmem⟩ := mem_map_cons_iff.1 hlater
        rw [ih hmem]
        rfl
  | case5 c rest hprefix ih =>
      obtain ⟨b, rfl, hmem⟩ := mem_map_cons_iff.1 h
      rw [ih hmem]
      rfl

theorem getLast_cons_or (c : Char) (s : List Char) (previous : Option Char) :
    (c :: s).getLast?.or previous = s.getLast?.or (some c) := by
  rw [List.getLast?_cons]
  cases s.getLast? <;> rfl

/-- The search on from any point.  Where it is inside a place, `previous` and the characters to skip
are characters of the word. -/
theorem mem_placesFrom {p : Char → Bool} (hne : word ≠ []) (hword : ∀ c ∈ word, p c = true)
    {skip : Nat} {previous : Option Char} (hinside : skip = 0 ∨ ∃ c ∈ previous, p c = true)
    (hskipped : ∀ c ∈ s.take skip, p c = true) (hs : s = before ++ word ++ after)
    (hbefore : ∀ c ∈ before.getLast?.or previous, p c = false) :
    (before, after) ∈ placesFrom word skip s := by
  fun_induction placesFrom word skip s generalizing before previous with
  | case1 skip hempty => exact absurd (List.isEmpty_iff.1 hempty) hne
  | case2 skip hempty =>
      simp only [List.nil_eq, List.append_eq_nil_iff] at hs
      exact absurd hs.1.2 hne
  | case3 skip c rest ih =>
      rw [mem_map_cons_iff]
      have hc : p c = true := hskipped c (by simp)
      cases before with
      | nil =>
          -- The word would begin inside a place, right behind one of its characters.
          obtain ⟨d, hd, hletter⟩ := hinside.resolve_left (by simp)
          rw [hbefore d (by simpa using hd)] at hletter
          cases hletter
      | cons b before =>
          obtain ⟨rfl, hrest⟩ := List.cons.inj hs
          rw [getLast_cons_or] at hbefore
          exact ⟨before, rfl, ih (Or.inr ⟨c, rfl, hc⟩)
            (fun d hd => hskipped d (by simp [hd])) hrest hbefore⟩
  | case4 c rest hprefix ih =>
      obtain ⟨tail, htail⟩ := List.isPrefixOf_iff_prefix.1 hprefix
      cases before with
      | nil =>
          have hdrop : (c :: rest).drop word.length = after := by
            rw [hs, List.nil_append, List.drop_left]
          exact List.mem_cons.2 (Or.inl (by rw [hdrop]))
      | cons b before =>
          obtain ⟨rfl, hrest⟩ := List.cons.inj hs
          rw [getLast_cons_or] at hbefore
          obtain ⟨first, more, rfl⟩ := List.exists_cons_of_ne_nil hne
          obtain ⟨rfl, hmore⟩ := List.cons.inj htail
          refine List.mem_cons_of_mem _ (mem_map_cons_iff.2 ⟨before, rfl, ?_⟩)
          refine ih (Or.inr ⟨first, rfl, hword first (by simp)⟩) ?_ hrest hbefore
          intro d hd
          rw [← hmore] at hd
          exact hword d (by simpa using Or.inr hd)
  | case5 c rest hprefix ih =>
      rw [mem_map_cons_iff]
      cases before with
      | nil => exact absurd (List.isPrefixOf_iff_prefix.2 ⟨after, hs.symm⟩) hprefix
      | cons b before =>
          obtain ⟨rfl, hrest⟩ := List.cons.inj hs
          rw [getLast_cons_or] at hbefore
          exact ⟨before, rfl, ih (Or.inl rfl) (by simp) hrest hbefore⟩

/-- At each place that is found the word stands in the text. -/
theorem eq_of_mem_places (h : (before, after) ∈ places word s) : s = before ++ word ++ after :=
  eq_of_mem_placesFrom h

/-- Places that overlap one found before are left out.  All of them stand behind a character of the
word, so a place behind any other character is found. -/
theorem mem_places {p : Char → Bool} (hne : word ≠ []) (hword : ∀ c ∈ word, p c = true)
    (hs : s = before ++ word ++ after) (hbefore : ∀ c ∈ before.getLast?, p c = false) :
    (before, after) ∈ places word s := by
  have hstart : ∀ c ∈ before.getLast?.or none, p c = false := by simpa using hbefore
  exact mem_placesFrom hne hword (Or.inl rfl) (by simp) hs hstart

end SiteAudit.Text

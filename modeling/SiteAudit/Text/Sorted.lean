/-!
# Collections sorted by a text key

A set of names and a map from names to texts are both lists whose keys
strictly increase, code point by code point. The order is part of the type,
so two collections with the same entries are equal.

## Main results

* `Sorted.ofList_entries` — building a collection from its own entries gives
  it back.
* `Sorted.mem_insert_self` — an inserted entry is there.
-/

namespace SiteAudit.Text

/-- Entries with strictly increasing keys. -/
structure Sorted {α : Type} (key : α → String) where
  entries : List α
  increasing : entries.Pairwise fun a b => key a < key b
deriving DecidableEq

namespace Sorted

variable {α : Type} {key : α → String}

/-- The collection without entries. -/
def empty : Sorted key := ⟨[], List.Pairwise.nil⟩

/-- An entry put in its place, in place of one with the same key. -/
def insertEntry (key : α → String) (a : α) : List α → List α
  | [] => [a]
  | b :: rest =>
    if key a < key b then a :: b :: rest
    else if key a = key b then a :: rest
    else b :: insertEntry key a rest

theorem mem_insertEntry {a x : α} {entries : List α} (h : x ∈ insertEntry key a entries) :
    x = a ∨ x ∈ entries := by
  induction entries with
  | nil => simpa [insertEntry] using h
  | cons b rest ih =>
    rw [insertEntry] at h
    split at h
    · simpa using h
    · split at h
      · rcases List.mem_cons.1 h with h | h
        · exact Or.inl h
        · exact Or.inr (List.mem_cons_of_mem _ h)
      · rcases List.mem_cons.1 h with h | h
        · exact Or.inr (h ▸ List.mem_cons_self)
        · exact (ih h).imp_right (List.mem_cons_of_mem _)

theorem increasing_insertEntry {a : α} {entries : List α}
    (h : entries.Pairwise fun a b => key a < key b) :
    (insertEntry key a entries).Pairwise fun a b => key a < key b := by
  induction entries with
  | nil => simp [insertEntry]
  | cons b rest ih =>
    obtain ⟨hb, hrest⟩ := List.pairwise_cons.1 h
    rw [insertEntry]
    split
    · next hab =>
      refine List.pairwise_cons.2 ⟨fun x hx => ?_, h⟩
      rcases List.mem_cons.1 hx with hx | hx
      · exact hx ▸ hab
      · exact String.lt_trans hab (hb x hx)
    · split
      · next hab => exact List.pairwise_cons.2 ⟨fun x hx => hab ▸ hb x hx, hrest⟩
      · next hlt hne =>
        refine List.pairwise_cons.2 ⟨fun x hx => ?_, ih hrest⟩
        rcases mem_insertEntry hx with hx | hx
        · subst hx
          have hle : key b ≤ key x := String.not_lt.1 hlt
          rcases Decidable.em (key b < key x) with h | h
          · exact h
          · exact absurd (String.le_antisymm (String.not_lt.1 h) hle) hne
        · exact hb x hx

/-- The collection with an entry put in; it replaces one with the same key. -/
def insert (s : Sorted key) (a : α) : Sorted key :=
  ⟨insertEntry key a s.entries, increasing_insertEntry s.increasing⟩

/-- The entries of a list; of entries with the same key the last one counts. -/
def ofList (entries : List α) : Sorted key := entries.foldl insert empty

/-- Whether there is no entry. -/
def isEmpty (s : Sorted key) : Bool := s.entries.isEmpty

/-! ## Laws -/

theorem mem_insert_self (s : Sorted key) (a : α) : a ∈ (s.insert a).entries := by
  show a ∈ insertEntry key a s.entries
  induction s.entries with
  | nil => simp [insertEntry]
  | cons b rest ih =>
    rw [insertEntry]
    split
    · simp
    · split <;> simp [ih]

theorem mem_insertEntry_names {a x : String} {entries : List String} :
    x ∈ insertEntry (fun name => name) a entries ↔ x = a ∨ x ∈ entries := by
  refine ⟨mem_insertEntry, ?_⟩
  induction entries with
  | nil => simp [insertEntry]
  | cons b rest ih =>
    rw [insertEntry]
    split
    · simp
    · split
      · next h => simp [h]
      · rintro (h | h)
        · simp [ih (Or.inl h)]
        · rcases List.mem_cons.1 h with h | h
          · simp [h]
          · simp [ih (Or.inr h)]

/-- The names of a set are those it is built from. -/
theorem mem_ofList_names {names : List String} {x : String} :
    x ∈ (@ofList String (fun name => name) names).entries ↔ x ∈ names := by
  suffices general : ∀ s : Sorted (fun name : String => name),
      x ∈ (names.foldl insert s).entries ↔ x ∈ s.entries ∨ x ∈ names by
    simpa [ofList, empty] using general empty
  induction names with
  | nil => simp
  | cons a rest ih =>
    intro s
    rw [List.foldl_cons, ih]
    simp [insert, mem_insertEntry_names, or_comm, or_assoc, or_left_comm]

theorem insertEntry_of_last {a : α} {entries : List α} (h : ∀ b ∈ entries, key b < key a) :
    insertEntry key a entries = entries ++ [a] := by
  induction entries with
  | nil => rfl
  | cons b rest ih =>
    have hb := h b (by simp)
    rw [insertEntry, if_neg (String.lt_asymm hb), if_neg, ih fun x hx => h x (by simp [hx])]
    · rfl
    · intro heq
      rw [heq] at hb
      exact String.lt_irrefl _ hb

theorem entries_foldl_insert {s : Sorted key} {rest : List α}
    (h : (s.entries ++ rest).Pairwise fun a b => key a < key b) :
    (rest.foldl insert s).entries = s.entries ++ rest := by
  induction rest generalizing s with
  | nil => simp
  | cons a rest ih =>
    have happend := List.pairwise_append.1 h
    have hlast : insertEntry key a s.entries = s.entries ++ [a] :=
      insertEntry_of_last fun b hb => happend.2.2 b hb a (by simp)
    rw [List.foldl_cons, ih]
    · simp [insert, hlast]
    · simpa [insert, hlast] using h

theorem eq_of_entries {s t : Sorted key} (h : s.entries = t.entries) : s = t := by
  cases s
  cases t
  simpa using h

/-- Building a collection from its own entries gives it back. -/
theorem ofList_entries (s : Sorted key) : ofList s.entries = s :=
  eq_of_entries (@entries_foldl_insert _ _ empty s.entries (by simpa [empty] using s.increasing))

end Sorted

/-- A set of names. -/
abbrev NameSet := Sorted (fun name : String => name)

/-- A map from names to texts. -/
abbrev TextMap := Sorted (fun entry : String × String => entry.1)

/-- Whether a name belongs to the set. -/
def Sorted.hasName (s : NameSet) (name : String) : Bool := s.entries.contains name

/-- The map with the text of a name set. -/
def Sorted.set (m : TextMap) (name text : String) : TextMap := m.insert (name, text)

end SiteAudit.Text

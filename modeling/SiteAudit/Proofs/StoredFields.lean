import SiteAudit.Record.Fields

/-!
# Laws of the readers of fields

A record is written as an object, so it is read again by looking up each of its
fields by name, one after the other.  The laws here take one field each: with them
a record that is written field by field is read field by field, and what is left
are the values.  A value is read as it was written if it is within the range of
its reader; texts, truth values and short numbers always are.

The other direction asks what a reader can give at all.  It gives only values in
range, from whichever object or array they are read, and `Ensures` hands this on
from the readers of values to the readers of records.

## Main results

* `finish_required`, `finish_optional`, `finish_withDefault` — one field of an
  object, and then the others.
* `list_list`, `nullable_ofOption`, `textMap_object` — lists, values that may be
  missing and maps are read as they were written.
* `Ensures.of_record` — what is true of all that a reader gives is true of a record.
-/

namespace SiteAudit

/-! ## Looking up -/

namespace Json

variable {name other : String} {value : Json} {rest : List (String × Json)}

-- Without an `if` that compares two names: `simp` decides on those one by one.
@[simp] theorem lookup_cons_self : lookup? name ((name, value) :: rest) = some value := if_pos rfl

@[simp] theorem lookup_cons_of_ne (h : other ≠ name) :
    lookup? name ((other, value) :: rest) = lookup? name rest := if_neg h

end Json

namespace Record

variable {α β : Type}

/-- A reader, and another one on what the first leaves. -/
theorem bind_apply (first : FieldReader α) (more : α → FieldReader β) (source : Fields) :
    (first >>= more) source = (first source).bind fun found => more found.1 found.2 := rfl

/-! ## Fields by name -/

section Named

variable (name : String) (fields : List (String × Json)) (read : Json → Option α)

theorem required_named :
    required name read (.named fields) =
      ((Json.lookup? name fields).bind read).map fun a => (a, .named fields) := by
  rw [required, bind_apply, next_named, Option.bind_some]
  cases Json.lookup? name fields with
  | none => rfl
  | some value =>
      show (read value).bind _ = (read value).map _
      cases read value <;> rfl

theorem optional_named :
    optional name read (.named fields) =
      ((Json.lookup? name fields).elim (some none) (nullable read)).map fun a =>
        (a, .named fields) := by
  rw [optional, bind_apply, next_named, Option.bind_some]
  cases Json.lookup? name fields with
  | none => rfl
  | some value =>
      show (nullable read value).bind _ = (nullable read value).map _
      cases nullable read value <;> rfl

/-- A reader that leaves an object as it is, and then another one. -/
theorem finish_bind {first : FieldReader α} {found : Option α}
    (h : first (.named fields) = found.map fun a => (a, .named fields))
    (more : α → FieldReader β) :
    finish (first >>= more) (.named fields) =
      found.bind fun a => finish (more a) (.named fields) := by
  rw [finish, bind_apply, h]
  cases found <;> rfl

@[simp] theorem finish_pure (b : β) : finish (pure b) (.named fields) = some b := rfl

@[simp] theorem finish_required (more : α → FieldReader β) :
    finish (required name read >>= more) (.named fields) =
      ((Json.lookup? name fields).bind read).bind fun a => finish (more a) (.named fields) :=
  finish_bind fields (required_named name fields read) more

@[simp] theorem finish_optional (more : Option α → FieldReader β) :
    finish (optional name read >>= more) (.named fields) =
      ((Json.lookup? name fields).elim (some none) (nullable read)).bind fun a =>
        finish (more a) (.named fields) :=
  finish_bind fields (optional_named name fields read) more

@[simp] theorem finish_withDefault (default : α) (more : α → FieldReader β) :
    finish (withDefault name default read >>= more) (.named fields) =
      ((Json.lookup? name fields).elim (some default) read).bind fun a =>
        finish (more a) (.named fields) :=
  finish_bind fields rfl more

end Named

/-! ## Values as they were written -/

section Values

variable {read : Json → Option α} {write : α → Json}

@[simp] theorem text_string (s : String) : text? (.string s) = some s := rfl

@[simp] theorem bool_bool (b : Bool) : bool? (.bool b) = some b := rfl

@[simp] theorem caseName_string (name : String) : caseName? (.string name) = some name := rfl

theorem int_int {n : Int} (h : Numeral.isSigned64 n = true) : int? (.int n) = some n := if_pos h

theorem nat_nat {limit n : Nat} (h : n ≤ limit) : nat? limit (.nat n) = some n := if_pos h

@[simp] theorem uint16_nat (n : UInt16) : uint16? (.nat n.toNat) = some n := by
  have hlt := n.toNat_lt
  rw [uint16?, nat_nat (by omega)]
  simp

@[simp] theorem uint32_nat (n : UInt32) : uint32? (.nat n.toNat) = some n := by
  have hlt := n.toNat_lt_size
  rw [uint32?, nat_nat (by omega)]
  simp

theorem uint64_nat {n : Nat} (h : n < UInt64.size) : uint64? (.nat n) = some n :=
  nat_nat (by omega)

/-- A list is read as it was written if each of its items is. -/
theorem list_list {items : List α} (h : ∀ a ∈ items, read (write a) = some a) :
    list? read (.list write items) = some items := by
  show (items.map write).mapM read = some items
  induction items with
  | nil => rfl
  | cons a items ih =>
      have hrest := ih fun b hb => h b (List.mem_cons_of_mem _ hb)
      rw [List.map_cons, List.mapM_cons, h a List.mem_cons_self, hrest]
      rfl

@[simp] theorem list_strings (texts : List String) : list? text? (.strings texts) = some texts :=
  list_list fun s _ => text_string s

/-- A value that may be missing is read as it was written, as long as none is written as `null`. -/
theorem nullable_ofOption {found : Option α} (hnull : ∀ a, write a ≠ .null)
    (h : ∀ a ∈ found, read (write a) = some a) :
    nullable read (.ofOption write found) = some found := by
  cases found with
  | none => rfl
  | some a =>
      have hread := h a rfl
      show nullable read (write a) = some (some a)
      unfold nullable
      split
      · next hwrite => exact absurd hwrite (hnull a)
      · rw [hread]
        rfl

@[simp] theorem nullable_text (found : Option String) :
    nullable text? (.ofOption .string found) = some found :=
  nullable_ofOption (fun _ => Json.noConfusion) fun s _ => text_string s

/-- A map is read as it was written: the entries are in order already. -/
@[simp] theorem textMap_object (m : Text.TextMap) :
    textMap? (.object (m.entries.map fun entry => (entry.1, .string entry.2))) = some m := by
  have hfields : ∀ entries : List (String × String),
      (entries.map fun entry => (entry.1, Json.string entry.2)).mapM textField? =
        some entries := by
    intro entries
    induction entries with
    | nil => rfl
    | cons entry entries ih =>
        rw [List.map_cons, List.mapM_cons, ih]
        rfl
  rw [textMap?, hfields]
  exact congrArg some (Text.Sorted.ofList_entries m)

end Values

/-! ## What readers give -/

/-- Whatever the reader gives satisfies `P`. -/
def Ensures (reader : FieldReader α) (P : α → Prop) : Prop :=
  ∀ source a rest, reader source = some (a, rest) → P a

namespace Ensures

variable {P : α → Prop} {Q : β → Prop} {name : String} {read : Json → Option α}

theorem pure {a : α} (h : P a) : Ensures (pure a) P := by
  intro source b rest hread
  cases hread
  exact h

theorem bind {first : FieldReader α} {more : α → FieldReader β} (hfirst : Ensures first P)
    (hmore : ∀ a, P a → Ensures (more a) Q) : Ensures (first >>= more) Q := by
  intro source b rest hread
  obtain ⟨⟨a, middle⟩, ha, hb⟩ := Option.bind_eq_some_iff.1 hread
  exact hmore a (hfirst source a middle ha) middle b rest hb

/-- Nothing has to be known of the field that is read first. -/
theorem skip {first : FieldReader α} {more : α → FieldReader β}
    (hmore : ∀ a, Ensures (more a) Q) : Ensures (first >>= more) Q :=
  bind (P := fun _ => True) (fun _ _ _ _ => trivial) fun a _ => hmore a

/-- A value read into a record, by a reader of values. -/
theorem lift {found : Option α} (h : ∀ a, found = some a → P a) :
    Ensures (StateT.lift found) P := by
  intro source a rest hread
  obtain ⟨b, hb, hrest⟩ := Option.bind_eq_some_iff.1 hread
  cases hrest
  exact h _ hb

theorem required (h : ∀ value a, read value = some a → P a) :
    Ensures (required name read) P := by
  refine skip fun found => ?_
  cases found with
  | none => exact fun _ _ _ hread => by cases hread
  | some value => exact lift (h value)

theorem optional (h : ∀ value a, read value = some a → P a) :
    Ensures (optional name read) fun found => ∀ a ∈ found, P a := by
  refine skip fun found => ?_
  cases found with
  | none => exact pure fun a ha => by cases ha
  | some value =>
      refine lift fun found hfound a ha => ?_
      unfold nullable at hfound
      split at hfound
      · cases hfound
        cases ha
      · obtain ⟨b, hb, hsome⟩ := Option.map_eq_some_iff.1 hfound
        cases hsome
        cases ha
        exact h value _ hb

theorem of_finish {reader : FieldReader α} (h : Ensures reader P) {source : Fields} {a : α}
    (hread : finish reader source = some a) : P a := by
  obtain ⟨⟨b, rest⟩, hb, hrest⟩ := Option.bind_eq_some_iff.1 hread
  change (if rest.isUsedUp then some b else none) = some a at hrest
  split at hrest
  · cases hrest
    exact h source _ rest hb
  · cases hrest

/-- What is true of all that a reader gives is true of a record. -/
theorem of_record {reader : FieldReader α} (h : Ensures reader P) {value : Json} {a : α}
    (hread : record reader value = some a) : P a := by
  unfold record at hread
  split at hread
  · exact h.of_finish hread
  · exact h.of_finish hread
  · cases hread

end Ensures

theorem isSigned64_of_int {value : Json} {n : Int} (h : int? value = some n) :
    Numeral.isSigned64 n = true := by
  unfold int? at h
  split at h
  · next number =>
    unfold Json.Number.signed? at h
    split at h
    · split at h
      · next hsigned =>
        cases h
        exact hsigned
      · cases h
    · cases h
  · cases h

theorem le_of_nat {limit n : Nat} {value : Json} (h : nat? limit value = some n) : n ≤ limit := by
  unfold nat? at h
  split at h
  · split at h
    · next hle =>
      cases h
      exact hle
    · cases h
  · cases h

theorem lt_of_uint64 {value : Json} {n : Nat} (h : uint64? value = some n) : n < UInt64.size := by
  have hle := le_of_nat h
  have hsize : 0 < UInt64.size := by decide
  omega

theorem forall_mem_of_list {P : α → Prop} {read : Json → Option α}
    (h : ∀ value a, read value = some a → P a) {value : Json} {found : List α}
    (hread : list? read value = some found) : ∀ a ∈ found, P a := by
  unfold list? at hread
  split at hread
  · next items =>
    induction items generalizing found with
    | nil =>
        cases hread
        simp
    | cons item items ih =>
        rw [List.mapM_cons] at hread
        obtain ⟨a, ha, hread⟩ := Option.bind_eq_some_iff.1 hread
        obtain ⟨more, hmore, hread⟩ := Option.bind_eq_some_iff.1 hread
        cases hread
        exact List.forall_mem_cons.2 ⟨h item a ha, ih hmore⟩
  · cases hread

end Record

end SiteAudit

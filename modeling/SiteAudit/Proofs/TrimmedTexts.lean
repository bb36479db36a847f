import SiteAudit.Proofs.GroupReferences

/-!
# Texts that are read are trimmed

A text that a reader of exports takes from a field has no blanks at its ends
and is not empty: either it was a text and was trimmed, or it was a number and
is written with digits, signs and points.  The comparison of rules relies on
this for web domains, which it takes for hosts as they stand.

## Main results

* `Text.isTidy_iff` — the tidy texts are those that trimming leaves alone.
* `Json.Number.noBlanks_text` — the text of a number has no blanks at all.
* `Export.isTidy_of_mem_labels` — the texts of a list are tidy.
* `Export.hasTrimmedDomains_of_mem_rules` — the domains of every rule that is
  read are trimmed.
-/

namespace SiteAudit

namespace Text

/-- No character of the text is blank. -/
def NoBlanks (s : List Char) : Prop := ∀ c ∈ s, isBlank c = false

-- One look at each character of the text, not at all characters there are.
instance (s : List Char) : Decidable (NoBlanks s) :=
  List.decidableBAll (isBlank · = false) s

theorem NoBlanks.append {s t : List Char} (hs : NoBlanks s) (ht : NoBlanks t) :
    NoBlanks (s ++ t) := by
  intro c hc
  rcases List.mem_append.1 hc with hc | hc
  · exact hs c hc
  · exact ht c hc

/-- A part of a text has blanks only where the text has. -/
theorem NoBlanks.sublist {s t : List Char} (ht : NoBlanks t) (hst : s.Sublist t) :
    NoBlanks s :=
  fun c hc => ht c (hst.subset hc)

theorem noBlanks_replicate {c : Char} (hc : isBlank c = false) (n : Nat) :
    NoBlanks (List.replicate n c) := by
  intro d hd
  rw [(List.mem_replicate.1 hd).2]
  exact hc

theorem isBlank_of_isDigit {c : Char} (h : c.isDigit = true) : isBlank c = false := by
  have hrange : 48 ≤ c.toNat ∧ c.toNat ≤ 57 := by
    simpa [Char.isDigit, UInt32.le_iff_toNat_le] using h
  apply Bool.eq_false_iff.2
  intro hblank
  obtain ⟨range, hmem, hlow, hhigh⟩ := Ranges.holds_eq_true_iff.1 hblank
  simp only [blankRanges, List.mem_cons, List.not_mem_nil, or_false] at hmem
  rcases hmem with rfl | rfl | rfl | rfl | rfl | rfl | rfl | rfl | rfl | rfl <;>
    simp only at hlow hhigh <;> omega

theorem trimChars_of_noBlanks {s : List Char} (h : NoBlanks s) : trimChars s = s :=
  trimChars_of_ends (fun c hc => h c (List.mem_of_mem_head? hc))
    (fun c hc => h c (List.mem_of_mem_getLast? hc))

theorem trim_of_noBlanks {s : String} (h : NoBlanks s.toList) : trim s = s := by
  rw [trim, trimChars_of_noBlanks h, String.ofList_toList]

/-- The text is not empty, and neither its first character nor its last is blank. -/
def IsTidy (s : String) : Prop :=
  s ≠ "" ∧ (∀ c ∈ s.toList.head?, isBlank c = false) ∧ ∀ c ∈ s.toList.getLast?, isBlank c = false

/-- Apart from the empty text, the tidy ones are those that trimming leaves alone. -/
theorem isTidy_iff {s : String} : IsTidy s ↔ s ≠ "" ∧ trim s = s := by
  constructor
  · rintro ⟨hne, hfirst, hlast⟩
    exact ⟨hne, by rw [trim, trimChars_of_ends hfirst hlast, String.ofList_toList]⟩
  · rintro ⟨hne, htrim⟩
    have hchars : trimChars s.toList = s.toList := by
      rw [← String.toList_ofList (l := trimChars s.toList)]
      exact congrArg String.toList htrim
    rw [IsTidy, ← hchars]
    exact ⟨hne, head_trimChars, getLast_trimChars⟩

theorem isTidy_of_nonBlank {s t : String} (h : nonBlank? s = some t) : IsTidy t :=
  isTidy_iff.2 (Export.nonBlank_eq_some h)

end Text

/-! ## Numbers -/

open Text (NoBlanks noBlanks_replicate)

theorem Numeral.isDigit_of_mem_write {n : Nat} {c : Char} (h : c ∈ write 10 n) :
    c.isDigit = true := by
  have hdigit : ∀ m : Fin 10, (digitChar m.val).isDigit = true := by decide
  fun_induction write 10 n with
  | case1 n _ ih =>
      rcases List.mem_append.1 h with h | h
      · exact ih h
      · rw [List.mem_singleton.1 h]
        exact hdigit ⟨n % 10, Nat.mod_lt n (by omega)⟩
  | case2 n hsmall =>
      rw [List.mem_singleton.1 h]
      exact hdigit ⟨n, by omega⟩

theorem Numeral.noBlanks_write (n : Nat) : NoBlanks (write 10 n) :=
  fun _ hc => Text.isBlank_of_isDigit (isDigit_of_mem_write hc)

theorem Json.Double.Decimal.noBlanks_text (layout : Layout) (d : Decimal) :
    NoBlanks (d.text layout) := by
  have hdigits := Numeral.noBlanks_write d.digits
  have htake := fun n => hdigits.sublist (List.take_sublist n _)
  have hdrop := fun n => hdigits.sublist (List.drop_sublist n _)
  have hzeros := noBlanks_replicate (show Text.isBlank '0' = false by decide)
  have hpoint : NoBlanks ['.'] := by decide
  simp only [Decimal.text]
  split
  · split
    · exact ((show NoBlanks ['0', '.'] by decide).append (hzeros _)).append hdigits
    · split
      · exact (hdigits.append (hzeros _)).append (by decide)
      · exact ((htake _).append hpoint).append (hdrop _)
  · have hsign : ∀ negative : Prop, [Decidable negative] →
        NoBlanks ['e', if negative then '-' else '+'] := by
      intro negative _
      split <;> decide
    refine ((NoBlanks.append (htake _) ?_).append (hsign _)).append (Numeral.noBlanks_write _)
    split
    · decide
    · exact hpoint.append (hdrop 1)

theorem Json.Double.noBlanks_text (x : Double) : NoBlanks x.text.toList := by
  rw [text, String.toList_ofList]
  apply NoBlanks.append
  · split <;> decide
  · split
    · decide
    · exact Decimal.noBlanks_text _ _

/-- The text of a number has no blanks. -/
theorem Json.Number.noBlanks_text (n : Number) : NoBlanks n.text.toList := by
  cases n with
  | integer value =>
      cases value with
      | ofNat n =>
          change NoBlanks (String.ofList (Numeral.write 10 n)).toList
          rw [String.toList_ofList]
          exact Numeral.noBlanks_write n
      | negSucc n =>
          change NoBlanks ("-" ++ String.ofList (Numeral.write 10 (n + 1))).toList
          rw [String.toList_append, String.toList_ofList (l := Numeral.write 10 (n + 1))]
          exact (show NoBlanks "-".toList by decide).append (Numeral.noBlanks_write _)
  | double x => exact Double.noBlanks_text x

theorem Json.Double.Decimal.text_ne_nil (layout : Layout) (d : Decimal) : d.text layout ≠ [] := by
  simp only [Decimal.text]
  repeat' split
  all_goals simp

/-- A number is written with one character at least. -/
theorem Json.Number.text_ne_empty (n : Number) : n.text ≠ "" := by
  intro h
  have hchars : n.text.toList = [] := congrArg String.toList h
  cases n with
  | integer value =>
      cases value with
      | ofNat n =>
          change (String.ofList (Numeral.write 10 n)).toList = [] at hchars
          rw [String.toList_ofList] at hchars
          exact Numeral.write_ne_nil 10 n hchars
      | negSucc n =>
          change ("-" ++ String.ofList (Numeral.write 10 (n + 1))).toList = [] at hchars
          rw [String.toList_append, List.append_eq_nil_iff] at hchars
          exact absurd hchars.1 (by decide)
  | double x =>
      change x.text.toList = [] at hchars
      rw [Double.text, String.toList_ofList, List.append_eq_nil_iff] at hchars
      have hbody := hchars.2
      split at hbody
      · cases hbody
      · exact Double.Decimal.text_ne_nil _ _ hbody

/-! ## Fields -/

namespace Export

open Text (IsTidy)

variable {doc : Json} {key t : String}

theorem isTidy_of_asLabel {value : Json} (h : asLabel? value = some t) : IsTidy t := by
  cases value with
  | string s => exact Text.isTidy_of_nonBlank h
  | number n =>
      have ht : n.text = t := Option.some.inj h
      rw [← ht]
      exact Text.isTidy_iff.2 ⟨n.text_ne_empty, Text.trim_of_noBlanks n.noBlanks_text⟩
  | null | bool _ | array _ | object _ => simp [asLabel?] at h

theorem isTidy_of_text (h : text? doc key = some t) : IsTidy t := by
  rw [text?] at h
  split at h
  · exact Text.isTidy_of_nonBlank h
  · cases h

theorem isTidy_of_label (h : label? doc key = some t) : IsTidy t := by
  obtain ⟨_, _, hvalue⟩ := Option.bind_eq_some_iff.1 h
  exact isTidy_of_asLabel hvalue

/-- The texts of a list are tidy. -/
theorem isTidy_of_mem_labels (h : t ∈ labels doc key) : IsTidy t := by
  rw [labels] at h
  split at h
  · obtain ⟨_, _, hvalue⟩ := List.mem_filterMap.1 h
    exact isTidy_of_asLabel hvalue
  · exact Text.isTidy_of_nonBlank (Option.mem_toList.1 h)
  · exact absurd h List.not_mem_nil

end Export

/-! ## Rules -/

/-- The web domains of a target are without blanks around them. -/
def Target.HasTrimmedDomains : Target → Prop
  | .web domains => ∀ d ∈ domains, Text.trim d = d
  | _ => True

instance : (t : Target) → Decidable t.HasTrimmedDomains
  | .web domains => inferInstanceAs (Decidable (∀ d ∈ domains, Text.trim d = d))
  | .any | .network .. | .ip .. | .client _ | .app _ | .appCategory _ | .unsupported _ =>
    .isTrue trivial

/-- The web domains of both sides are without blanks around them. -/
def Rule.HasTrimmedDomains (r : Rule) : Prop :=
  r.source.target.HasTrimmedDomains ∧ r.destination.target.HasTrimmedDomains

instance (r : Rule) : Decidable r.HasTrimmedDomains :=
  inferInstanceAs (Decidable (_ ∧ _))

namespace Export

/-- Whatever kind of target a side turns out to have, its domains are the ones of the fields. -/
theorem Side.hasTrimmedDomains {s : Side} (h : ∀ d ∈ s.domains, Text.trim d = d) :
    s.endpoint.target.HasTrimmedDomains :=
  s.target_endpoint trivial trivial trivial trivial h trivial trivial fun _ => trivial

theorem flatSide_hasTrimmedDomains (groups : GroupTable) (row : Json) (side : String) :
    (flatSide groups row side).endpoint.target.HasTrimmedDomains := by
  apply Side.hasTrimmedDomains
  rw [flatSide, foldl_addGroup_eq]
  exact fun d hd => (Text.isTidy_iff.1 (isTidy_of_mem_labels hd)).2

theorem policySide_hasTrimmedDomains (groups : GroupTable) (side : Json) :
    (policySide groups side).endpoint.target.HasTrimmedDomains := by
  apply Side.hasTrimmedDomains
  intro d hd
  rw [policySide] at hd
  split at hd
  · exact (Text.isTidy_iff.1 (isTidy_of_mem_labels hd)).2
  · simp [Side.empty] at hd

theorem rule_sides {row : Json} {index : Int} {inverted : Bool} {source destination : Side}
    {ruleset : Option String} {r : Rule}
    (h : rule? row index inverted source destination ruleset = some r) :
    r.source = source.endpoint ∧ r.destination = destination.endpoint := by
  obtain ⟨id, _, rfl⟩ := Option.map_eq_some_iff.1 h
  exact ⟨rfl, rfl⟩

theorem hasTrimmedDomains_of_flatRule {groups : GroupTable} {row : Json} {r : Rule}
    (h : flatRule? groups row = some r) : r.HasTrimmedDomains := by
  obtain ⟨hsource, hdestination⟩ := rule_sides h
  rw [Rule.HasTrimmedDomains, hsource, hdestination]
  exact ⟨flatSide_hasTrimmedDomains groups row "src", flatSide_hasTrimmedDomains groups row "dst"⟩

theorem hasTrimmedDomains_of_policyRule {groups : GroupTable} {row : Json} {r : Rule}
    (h : policyRule? groups row = some r) : r.HasTrimmedDomains := by
  obtain ⟨hsource, hdestination⟩ := rule_sides h
  rw [Rule.HasTrimmedDomains, hsource, hdestination]
  exact ⟨policySide_hasTrimmedDomains groups _, policySide_hasTrimmedDomains groups _⟩

theorem hasTrimmedDomains_of_rowRule {groups : GroupTable} {row : Json} {r : Rule}
    (h : rowRule? groups row = some r) : r.HasTrimmedDomains := by
  rw [rowRule?] at h
  split at h
  · exact hasTrimmedDomains_of_policyRule h
  · exact hasTrimmedDomains_of_flatRule h

/-- A rule of an item is the rule of some row, in one of the two dialects. -/
theorem exists_row_of_mem_itemRules {groups : GroupTable} {item : Json} {r : Rule}
    (h : r ∈ itemRules groups item) :
    ∃ row, rowRule? groups row = some r ∨ policyRule? groups row = some r := by
  have hembedded : r ∈ embeddedRules groups item →
      ∃ row, rowRule? groups row = some r ∨ policyRule? groups row = some r := by
    intro hmem
    simp only [embeddedRules, List.mem_append, List.mem_filterMap] at hmem
    rcases hmem with (⟨row, _, hrow⟩ | ⟨row, _, hrow⟩) | ⟨row, _, hrow⟩
    · exact ⟨row, Or.inl hrow⟩
    · exact ⟨row, Or.inr hrow⟩
    · exact ⟨row, Or.inr hrow⟩
  rw [itemRules] at h
  split at h
  · exact hembedded h
  · split at h
    · simp at h
    · split at h
      · exact hembedded h
      · exact ⟨item, Or.inl (Option.mem_toList.1 h)⟩

/-- The domains of every rule that is read from a document are trimmed. -/
theorem hasTrimmedDomains_of_mem_rules {groups : GroupTable} {doc : Json} {r : Rule}
    (h : r ∈ rules groups doc) : r.HasTrimmedDomains := by
  obtain ⟨item, _, hitem⟩ := List.mem_flatMap.1 h
  obtain ⟨row, hrow | hrow⟩ := exists_row_of_mem_itemRules hitem
  · exact hasTrimmedDomains_of_rowRule hrow
  · exact hasTrimmedDomains_of_policyRule hrow

/-- So are those of a rule that is read, or that was made as if it were. -/
theorem hasTrimmedDomains_of_read {r : Rule}
    (h : r.HasTrimmedDomains ∨ ∃ groups doc, r ∈ rules groups doc) : r.HasTrimmedDomains := by
  rcases h with htrim | ⟨groups, doc, hmem⟩
  · exact htrim
  · exact hasTrimmedDomains_of_mem_rules hmem

end Export

end SiteAudit

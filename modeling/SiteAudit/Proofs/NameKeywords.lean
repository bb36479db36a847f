import SiteAudit.Network.Classification

/-!
# Which keywords decide about a name

A network is known by the first family of keywords of which its name has one.  Some
keywords count wherever they stand; the others have to stand alone, with no letter
before or after them.  The search for the latter goes from one place to the next and
leaves out the places that overlap.  Nothing is lost by that: a place that begins inside
an earlier one stands behind a letter of the keyword itself.

A name is compared in small letters, and there are two small forms of sigma, one of them
for the end of a word.  Both are letters and neither occurs in a keyword, so it does not
matter which one is written.

## Main results

* `Text.standsAlone_congr` — which sigma is written does not matter for a word without one.
* `KeywordFamily.matchesName_iff` — what it means that a name has a keyword of a family.
* `keywords_decide` — the search for words is exact, and so is the choice of the
  family.
-/

namespace SiteAudit

namespace Text

variable {word s t : List Char}

/-! ## Words that stand alone -/

/-- The word stands somewhere in the text with no letter before and after it. -/
def StandsAlone (word text : List Char) : Prop :=
  ∃ before after, text = before ++ word ++ after ∧
    (∀ c ∈ before.getLast?, isLetter c = false) ∧ ∀ c ∈ after.head?, isLetter c = false

/-! ## The two small forms of sigma -/

/-- The sigma at the end of a word is written like any other. -/
def plainSigma (c : Char) : Char := if c = 'ς' then 'σ' else c

/-- The texts differ at most in which small sigma is written where. -/
def SameUpToSigma (s t : List Char) : Prop := s.map plainSigma = t.map plainSigma

instance (s t : List Char) : Decidable (SameUpToSigma s t) :=
  inferInstanceAs (Decidable (_ = _))

/-- No sigma of either small form occurs. -/
def NoSigma (s : List Char) : Prop := ∀ c ∈ s, c ≠ 'σ' ∧ c ≠ 'ς'

instance (s : List Char) : Decidable (NoSigma s) :=
  List.decidableBAll (fun c => c ≠ 'σ' ∧ c ≠ 'ς') s

theorem isLetter_plainSigma (c : Char) : isLetter (plainSigma c) = isLetter c := by
  rw [plainSigma]
  split
  · next h =>
    rw [h]
    decide
  · rfl

theorem eq_of_plainSigma_eq {c d : Char} (h : plainSigma c = d) (hd : d ≠ 'σ') : c = d := by
  rw [plainSigma] at h
  split at h
  · exact absurd h.symm hd
  · exact h

/-- A word without sigmas is written in one way only. -/
theorem eq_of_sameUpToSigma (hword : NoSigma word) (h : SameUpToSigma s word) : s = word := by
  induction s generalizing word with
  | nil =>
      cases word with
      | nil => rfl
      | cons d word => cases h
  | cons c s ih =>
      cases word with
      | nil => cases h
      | cons d word =>
          obtain ⟨hhead, htail⟩ := List.cons.inj h
          obtain ⟨hnotPlain, hnotFinal⟩ := hword d List.mem_cons_self
          have hplain : plainSigma d = d := if_neg hnotFinal
          rw [hplain] at hhead
          rw [eq_of_plainSigma_eq hhead hnotPlain,
            ih (fun e he => hword e (List.mem_cons_of_mem d he)) htail]

/-- Where a word without sigmas stands in a text, it stands in the other text too, and what is
before and after it are the same up to sigmas. -/
theorem SameUpToSigma.exists_split (hword : NoSigma word) (h : SameUpToSigma s t)
    {before after : List Char} (hs : s = before ++ word ++ after) :
    ∃ before' after', t = before' ++ word ++ after' ∧ SameUpToSigma before' before ∧
      SameUpToSigma after' after := by
  have hsplit : t.map plainSigma =
      before.map plainSigma ++ word.map plainSigma ++ after.map plainSigma := by
    rw [← h, hs, List.map_append, List.map_append]
  obtain ⟨front, after', rfl, hfront, hafter⟩ := List.map_eq_append_iff.1 hsplit
  obtain ⟨before', middle, rfl, hbefore, hmiddle⟩ := List.map_eq_append_iff.1 hfront
  rw [eq_of_sameUpToSigma hword hmiddle]
  exact ⟨before', after', rfl, hbefore, hafter⟩

/-- Either form of sigma is a letter, so no place is opened or closed. -/
theorem SameUpToSigma.isLetter_eq_false {c d : Option Char}
    (h : c.map plainSigma = d.map plainSigma) (hd : ∀ x ∈ d, isLetter x = false) :
    ∀ x ∈ c, isLetter x = false := by
  intro x hx
  rw [Option.mem_def.1 hx, Option.map_some] at h
  obtain ⟨y, hy, hxy⟩ := Option.map_eq_some_iff.1 h.symm
  rw [← isLetter_plainSigma, ← hxy, isLetter_plainSigma]
  exact hd y hy

theorem StandsAlone.of_same (hword : NoSigma word) (h : SameUpToSigma s t)
    (hs : StandsAlone word s) : StandsAlone word t := by
  obtain ⟨before, after, hsplit, hbefore, hafter⟩ := hs
  obtain ⟨before', after', ht, hfront, hback⟩ := h.exists_split hword hsplit
  refine ⟨before', after', ht, SameUpToSigma.isLetter_eq_false ?_ hbefore,
    SameUpToSigma.isLetter_eq_false ?_ hafter⟩
  · rw [← List.getLast?_map, ← List.getLast?_map]
    exact congrArg List.getLast? hfront
  · rw [← List.head?_map, ← List.head?_map]
    exact congrArg List.head? hback

/-- Which sigma is written does not matter for a word without one. -/
theorem standsAlone_congr (hword : NoSigma word) (h : SameUpToSigma s t) :
    StandsAlone word s ↔ StandsAlone word t :=
  ⟨StandsAlone.of_same hword h, StandsAlone.of_same hword h.symm⟩

theorem infix_of_same (hword : NoSigma word) (h : SameUpToSigma s t) (hs : word <:+: s) :
    word <:+: t := by
  obtain ⟨before, after, hsplit⟩ := hs
  obtain ⟨before', after', ht, _⟩ := h.exists_split hword hsplit.symm
  exact ⟨before', after', ht.symm⟩

/-- Nor does it where the word may stand anywhere. -/
theorem infix_congr (hword : NoSigma word) (h : SameUpToSigma s t) : word <:+: s ↔ word <:+: t :=
  ⟨infix_of_same hword h, infix_of_same hword h.symm⟩

end Text

/-! ## Families of keywords -/

namespace KeywordFamily

/-- One of the keywords that count anywhere occurs in the text, or one of the words stands alone. -/
def IsNamedIn (family : KeywordFamily) (text : List Char) : Prop :=
  (∃ keyword ∈ family.substrings, keyword.toList <:+: text) ∨
    ∃ word ∈ family.words, Text.StandsAlone word.toList text

/-- All words of the families are made of letters. -/
theorem words_of_all : ∀ family ∈ all, ∀ word ∈ family.words,
    word ≠ "" ∧ word.toList.all Text.isLetter = true := by
  decide

/-- No keyword has a sigma. -/
theorem noSigma_of_all : ∀ family ∈ all,
    (∀ keyword ∈ family.substrings, Text.NoSigma keyword.toList) ∧
      ∀ word ∈ family.words, Text.NoSigma word.toList := by
  decide

variable {family : KeywordFamily}

/-- What it means that a name in small letters has a keyword of a family. -/
theorem matchesName_iff (hfamily : family ∈ all) {name : String} :
    family.matchesName name = true ↔ family.IsNamedIn name.toList := by
  have hsubstring : ∀ keyword : String,
      Text.occursIn keyword.toList name.toList = true ↔ keyword.toList <:+: name.toList := by
    intro keyword
    rw [Text.occursIn_iff]
    exact exists₂_congr fun _ _ => eq_comm
  have hword : ∀ word ∈ family.words,
      (containsWord name word = true ↔ Text.StandsAlone word.toList name.toList) := by
    intro word hword
    obtain ⟨hne, hletters⟩ := words_of_all family hfamily word hword
    exact containsWord_iff hne (List.all_eq_true.1 hletters)
  simp only [matchesName, Bool.or_eq_true, List.any_eq_true, hsubstring]
  exact or_congr_right (exists_congr fun word => and_congr_right fun hmem => hword word hmem)

theorem isNamedIn_congr (hfamily : family ∈ all) {s t : List Char} (h : Text.SameUpToSigma s t) :
    family.IsNamedIn s ↔ family.IsNamedIn t := by
  obtain ⟨hsubstrings, hwords⟩ := noSigma_of_all family hfamily
  apply or_congr
  · exact exists_congr fun keyword => and_congr_right fun hmem =>
      Text.infix_congr (hsubstrings keyword hmem) h
  · exact exists_congr fun word => and_congr_right fun hmem =>
      Text.standsAlone_congr (hwords word hmem) h

/-- The text has a keyword of the family and none of the families before it in the table. -/
def IsFirstIn (family : KeywordFamily) (text : List Char) : Prop :=
  ∃ earlier later, all = earlier ++ family :: later ∧ family.IsNamedIn text ∧
    ∀ f ∈ earlier, ¬f.IsNamedIn text

variable {name : String} {small : List Char}

/-- A family has a keyword in a name exactly if it has one in any small form of it. -/
theorem matchesName_lower_iff (h : Text.SameUpToSigma small (Text.lower name).toList)
    (hfamily : family ∈ all) :
    family.matchesName (Text.lower name) = true ↔ family.IsNamedIn small :=
  (matchesName_iff hfamily).trans (isNamedIn_congr hfamily h).symm

theorem find_eq_some_iff (h : Text.SameUpToSigma small (Text.lower name).toList) :
    all.find? (·.matchesName (Text.lower name)) = some family ↔ family.IsFirstIn small := by
  rw [List.find?_eq_some_iff_append]
  constructor
  · rintro ⟨hmatches, earlier, later, hall, hearlier⟩
    have hnamed := (matchesName_lower_iff h (by simp [hall])).1 hmatches
    refine ⟨earlier, later, hall, hnamed, fun f hf hf' => ?_⟩
    have hnot : (!f.matchesName (Text.lower name)) = true := hearlier f hf
    rw [(matchesName_lower_iff h (by simp [hall, hf])).2 hf'] at hnot
    cases hnot
  · rintro ⟨earlier, later, hall, hnamed, hearlier⟩
    refine ⟨(matchesName_lower_iff h (by simp [hall])).2 hnamed, earlier, later, hall, ?_⟩
    intro f hf
    rw [Bool.not_eq_true', Bool.eq_false_iff]
    intro hother
    exact hearlier f hf ((matchesName_lower_iff h (by simp [hall, hf])).1 hother)

theorem find_eq_none_iff (h : Text.SameUpToSigma small (Text.lower name).toList) :
    all.find? (·.matchesName (Text.lower name)) = none ↔ ∀ f ∈ all, ¬f.IsNamedIn small := by
  rw [List.find?_eq_none]
  exact forall₂_congr fun f hf => not_congr (matchesName_lower_iff h hf)

end KeywordFamily

/-! ## The purpose that a name suggests -/

/-- **The keywords of a name decide.**  A word made of letters is found in a text exactly if it
stands there alone, wherever that is.  And whichever small sigmas a name is written with in small
letters, it suggests the purpose of the first family of the table of which it then has a keyword,
and no purpose exactly if there is no such family. -/
theorem keywords_decide :
    (∀ text word : String, word ≠ "" → (∀ c ∈ word.toList, Text.isLetter c = true) →
        (containsWord text word = true ↔ Text.StandsAlone word.toList text.toList)) ∧
      ∀ (name : String) (small : List Char), Text.SameUpToSigma small (Text.lower name).toList →
        (∀ purpose, Purpose.ofNetworkName? name = some purpose ↔
          ∃ family : KeywordFamily, family.purpose = purpose ∧ family.IsFirstIn small) ∧
        (Purpose.ofNetworkName? name = none ↔
          ∀ family ∈ KeywordFamily.all, ¬family.IsNamedIn small) := by
  refine ⟨fun text word hne hletters => containsWord_iff hne hletters, fun name small h => ?_⟩
  constructor
  · intro purpose
    rw [Purpose.ofNetworkName?, Option.map_eq_some_iff]
    exact exists_congr fun family => by rw [KeywordFamily.find_eq_some_iff h, and_comm]
  · rw [Purpose.ofNetworkName?, Option.map_eq_none_iff, KeywordFamily.find_eq_none_iff h]

/-- The second of two keywords that overlap begins behind a letter.  A name in Greek has its final
sigma, and a keyword next to a digit. -/
theorem keywords_decide_overlapping :
    containsWord "employeemployee 2" "employee" = false ∧
      ¬Text.StandsAlone "employee".toList "employeemployee 2".toList ∧
      Text.SameUpToSigma "κηπος tv2".toList (Text.lower "ΚΗΠΟΣ TV2").toList ∧
      Purpose.ofNetworkName? "ΚΗΠΟΣ TV2" = some .iot := by
  obtain ⟨hword, hname⟩ := keywords_decide
  have hmissed : containsWord "employeemployee 2" "employee" = false := by decide
  have halone := hword "employeemployee 2" "employee" (by decide) (List.all_eq_true.1 (by decide))
  have htv := hword "κηπος tv2" "tv" (by decide) (List.all_eq_true.1 (by decide))
  have hsmall : Text.SameUpToSigma "κηπος tv2".toList (Text.lower "ΚΗΠΟΣ TV2").toList := by decide
  have hiot : (KeywordFamily.all.head (by decide)).IsNamedIn "κηπος tv2".toList :=
    Or.inr ⟨"tv", by decide, htv.1 (by decide)⟩
  refine ⟨hmissed, fun h => ?_, hsmall, ?_⟩
  · rw [halone.2 h] at hmissed
    cases hmissed
  · exact ((hname _ _ hsmall).1 .iot).2
      ⟨KeywordFamily.all.head (by decide), rfl, [], KeywordFamily.all.tail, rfl, hiot, by simp⟩

end SiteAudit

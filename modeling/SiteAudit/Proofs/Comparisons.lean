import SiteAudit.Proofs.AddressSets
import SiteAudit.Scope.Rule

/-!
# What the comparisons of lists say

Rules are compared through the lists that they carry: network ids, address
entries, port specifications, MAC addresses, web domains.  A comparison is
correct about what a list has if it claims containment only where one list
has everything that the other has, and denies an overlap only where the two
have nothing in common.  For a correct comparison both answers stay right
when lists are inverted.

Domains are the delicate case.  A rule may list `*.example.com`, and a
comparison takes that text for a host; what makes this sound is that the
wildcards in front of a host never help a domain to cover it.

## Main results

* `Comparison.Correct.has_of_contains`, `Comparison.Correct.overlaps_of_has` — of
  selections, inverted or not, containment is never claimed wrongly and an
  overlap never missed.
* `byElements_correct`, `byPorts_correct`, `byAddresses_correct` — the
  comparisons whose lists can be inverted.
* `hasMac_of_byMacs`, `overlaps_of_mac`, `hasHost_of_byDomains`, `overlaps_of_host` —
  the ones whose lists cannot.
* `Domain.covers_of_covers` — a domain covers what a domain below it covers.
* `Domain.covers_or_covers` — of two domains that cover a host, one covers the other.
* `Domain.coverage_nested` — both together, in any letter case and with any wildcards.
-/

namespace SiteAudit

namespace Scope

variable {α β : Type}

/-- A comparison gives right answers about what lists have. -/
structure Comparison.Correct (c : Comparison α) (has : α → β → Prop) : Prop where
  contains_sound : ∀ outer inner, c.contains outer inner = true →
    ∀ x, has inner x → has outer x
  overlaps_complete : ∀ a b x, has a x → has b x → c.overlaps a b = true

theorem Selection.has_iff {has : α → β → Bool} {s : Selection α} {x : β} :
    s.Has (fun list x => has list x = true) x ↔ (has s.list x != s.inverted) = true := by
  cases hs : s.inverted <;> simp [Selection.Has, hs]

/-- Of two selections, inverted or not, the one that is known to lie in the other has nothing
that the other does not have. -/
theorem Comparison.Correct.has_of_contains {c : Comparison α} {has : α → β → Bool}
    (hc : c.Correct fun list x => has list x = true) {outer inner : α}
    {outerInverted innerInverted : Bool}
    (h : c.invertedContains ⟨outer, outerInverted⟩ ⟨inner, innerInverted⟩ = true) {x : β}
    (hx : (has inner x != innerInverted) = true) : (has outer x != outerInverted) = true := by
  have hinner : (⟨inner, innerInverted⟩ : Selection α).Has _ x := Selection.has_iff.2 hx
  exact Selection.has_iff.1
    (invertedContains_sound hc.contains_sound hc.overlaps_complete h hinner)

/-- Two selections, inverted or not, that have something in common overlap. -/
theorem Comparison.Correct.overlaps_of_has {c : Comparison α} {has : α → β → Bool}
    (hc : c.Correct fun list x => has list x = true) {a b : α} {aInverted bInverted : Bool} {x : β}
    (ha : (has a x != aInverted) = true) (hb : (has b x != bInverted) = true) :
    c.invertedOverlaps ⟨a, aInverted⟩ ⟨b, bInverted⟩ = true := by
  have hleft : (⟨a, aInverted⟩ : Selection α).Has _ x := Selection.has_iff.2 ha
  have hright : (⟨b, bInverted⟩ : Selection α).Has _ x := Selection.has_iff.2 hb
  exact invertedOverlaps_complete hc.contains_sound hc.overlaps_complete hleft hright

/-! ## Elements -/

/-- Lists by their elements.  What is asked for may be missing; then no list has it. -/
theorem byElements_correct [BEq α] [LawfulBEq α] :
    (byElements (α := α)).Correct fun list (x : Option α) => x.any list.contains = true where
  contains_sound outer inner h x hx := by
    cases x with
    | none => exact hx
    | some a =>
        have hmem : a ∈ inner := List.contains_iff_mem.1 hx
        exact List.all_eq_true.1 h a hmem
  overlaps_complete a b x ha hb := by
    cases x with
    | none => simp at ha
    | some c =>
        have hmem : c ∈ a := List.contains_iff_mem.1 ha
        exact List.any_eq_true.2 ⟨c, hmem, hb⟩

/-! ## Ports -/

/-- The ports of a specification, given as text, are those of its ranges. -/
theorem includes_iff {spec port : String} :
    PortSpec.includes spec port = true ↔
      ∃ n ranges, PortSpec.port? port.toList = some n ∧ PortSpec.ranges? spec = some ranges ∧
        ∃ r ∈ ranges, r.first ≤ n ∧ n ≤ r.last := by
  rw [PortSpec.includes]
  cases hport : PortSpec.port? port.toList with
  | none => simp
  | some n =>
      cases hspec : PortSpec.ranges? spec with
      | none => simp [PortSpec.includesPort, hspec]
      | some ranges => simp [PortSpec.includesPort_iff hspec]

theorem byPorts_correct :
    byPorts.Correct fun spec port => PortSpec.includes spec port = true where
  contains_sound outer inner h port hport := by
    obtain ⟨n, inside, hn, hinner, r, hr, hfirst, hlast⟩ := includes_iff.1 hport
    change PortSpec.contains outer inner = true at h
    rw [PortSpec.contains, hinner] at h
    cases houter : PortSpec.ranges? outer with
    | none => simp [houter] at h
    | some around =>
        simp only [houter, List.all_eq_true, List.any_eq_true] at h
        obtain ⟨o, ho, hcovers⟩ := h r hr
        simp only [PortRange.covers, Bool.and_eq_true, decide_eq_true_eq] at hcovers
        exact includes_iff.2 ⟨n, around, hn, houter, o, ho, by omega, by omega⟩
  overlaps_complete a b port ha hb := by
    obtain ⟨n, left, hn, hleft, r, hr, hrange⟩ := includes_iff.1 ha
    obtain ⟨m, right, hm, hright, s, hs, hrange'⟩ := includes_iff.1 hb
    have hnm : n = m := Option.some.inj (hn.symm.trans hm)
    change PortSpec.overlap a b = true
    rw [PortSpec.overlap, hleft, hright]
    refine List.any_eq_true.2 ⟨r, hr, List.any_eq_true.2 ⟨s, hs, ?_⟩⟩
    simp only [PortRange.overlaps, Bool.and_eq_true, decide_eq_true_eq]
    omega

/-! ## Addresses -/

theorem byAddresses_correct :
    byAddresses.Correct fun entries x => Net.Entries.anyContain entries x = true where
  contains_sound outer inner h x hx := by
    obtain ⟨b, hb, hcontains⟩ := Net.Entries.anyContain_iff.1 hx
    have hcover := List.all_eq_true.1 h b hb
    exact Net.Entries.anyContain_of_anyCover hcover hcontains
  overlaps_complete a b x ha hb := by
    obtain ⟨block, hblock, hcontains⟩ := Net.Entries.anyContain_iff.1 ha
    exact List.any_eq_true.2
      ⟨block, hblock, Net.Entries.anyOverlap_of_anyContain hb hcontains⟩

/-! ## MAC addresses -/

theorem sameAsciiFold_trans {a b c : String} (hab : Text.sameAsciiFold a b = true)
    (hbc : Text.sameAsciiFold b c = true) : Text.sameAsciiFold a c = true := by
  simp only [Text.sameAsciiFold, beq_iff_eq] at *
  exact hab.trans hbc

theorem hasMac_of_byMacs {outer inner : List String}
    (h : byMacs.contains outer inner = true) {mac : String}
    (hmac : inner.any (Text.sameAsciiFold mac) = true) :
    outer.any (Text.sameAsciiFold mac) = true := by
  obtain ⟨m, hm, hsame⟩ := List.any_eq_true.1 hmac
  obtain ⟨o, ho, hfold⟩ := List.any_eq_true.1 (List.all_eq_true.1 h m hm)
  exact List.any_eq_true.2 ⟨o, ho, sameAsciiFold_trans hsame hfold⟩

theorem overlaps_of_mac {a b : List String} {mac : String}
    (ha : a.any (Text.sameAsciiFold mac) = true) (hb : b.any (Text.sameAsciiFold mac) = true) :
    byMacs.overlaps a b = true := by
  obtain ⟨x, hx, hsame⟩ := List.any_eq_true.1 ha
  obtain ⟨y, hy, hfold⟩ := List.any_eq_true.1 hb
  rw [Text.sameAsciiFold_comm] at hsame
  exact List.any_eq_true.2
    ⟨x, hx, List.any_eq_true.2 ⟨y, hy, sameAsciiFold_trans hsame hfold⟩⟩

end Scope

/-! ## Domains -/

namespace Net.Domain

/-- A character below the letters is the small form of no other one. -/
theorem toLower_eq_iff {c d : Char} (hd : d.toNat < 65) : c.toLower = d ↔ c = d := by
  rcases Text.toLower_eq_self_or c with hsame | ⟨hlow, _, hsmall⟩
  · rw [hsame]
  · constructor
    · intro h
      rw [h] at hsmall
      omega
    · rintro rfl
      omega

theorem dropWildcards_of_ne {s : List Char} (h : ∀ rest, s ≠ '*' :: '.' :: rest) :
    dropWildcards s = s := by
  unfold dropWildcards
  split
  · next rest => exact absurd rfl (h rest)
  · rfl

theorem dropWildcards_suffix (s : List Char) : dropWildcards s <:+ s := by
  fun_induction dropWildcards s with
  | case1 rest ih => exact ih.trans ((List.suffix_cons '.' rest).trans (List.suffix_cons '*' _))
  | case2 s _ => exact List.suffix_refl s

theorem dropWildcards_dropWildcards (s : List Char) :
    dropWildcards (dropWildcards s) = dropWildcards s := by
  fun_induction dropWildcards s with
  | case1 rest ih => exact ih
  | case2 s hs => exact dropWildcards_of_ne hs

/-- Letter case and wildcards do not interfere. -/
theorem dropWildcards_map_toLower (s : List Char) :
    dropWildcards (s.map Char.toLower) = (dropWildcards s).map Char.toLower := by
  fun_induction dropWildcards s with
  | case1 rest ih =>
      have hstar : Char.toLower '*' = '*' := by decide
      have hdot : Char.toLower '.' = '.' := by decide
      rw [List.map_cons, List.map_cons, hstar, hdot, dropWildcards, ih]
  | case2 s hs =>
      apply dropWildcards_of_ne
      intro rest hrest
      obtain ⟨c, t, rfl, hc, ht⟩ := List.map_eq_cons_iff.1 hrest
      obtain ⟨d, u, rfl, hd, _⟩ := List.map_eq_cons_iff.1 ht
      rw [toLower_eq_iff (by decide)] at hc hd
      exact hs u (by rw [hc, hd])

/-- The wildcards in front of a host do not help a plain domain to cover it. -/
theorem covered_dropWildcards {d h : List Char} (hd : dropWildcards d = d)
    (hcovered : h = d ∨ ('.' :: d) <:+ h) :
    dropWildcards h = d ∨ ('.' :: d) <:+ dropWildcards h := by
  fun_induction dropWildcards h with
  | case1 rest ih =>
      apply ih
      rcases hcovered with heq | hsuffix
      · -- A plain domain has no wildcard in front.
        have hlength := (dropWildcards_suffix rest).length_le
        rw [← heq, dropWildcards] at hd
        rw [hd] at hlength
        simp only [List.length_cons] at hlength
        omega
      · rcases List.suffix_cons_iff.1 hsuffix with heq | hsuffix
        · simp at heq
        · rcases List.suffix_cons_iff.1 hsuffix with heq | hsuffix
          · exact Or.inl (List.cons.inj heq).2.symm
          · exact Or.inr hsuffix
  | case2 s _ => exact hcovered

/-- Without its wildcards a text is the same, or an end of it after a dot. -/
theorem eq_dropWildcards_or (s : List Char) :
    s = dropWildcards s ∨ ('.' :: dropWildcards s) <:+ s := by
  fun_induction dropWildcards s with
  | case1 rest ih =>
      right
      have hrest : ('.' :: rest) <:+ '*' :: '.' :: rest := List.suffix_cons '*' _
      rcases ih with heq | hsuffix
      · rwa [← heq]
      · exact hsuffix.trans ((List.suffix_cons '.' rest).trans hrest)
  | case2 s _ => exact Or.inl rfl

theorem plain_of_trim {d : String} (h : Text.trim d = d) :
    plain d = dropWildcards (d.toList.map Char.toLower) := by
  have htrim : Text.trimChars d.toList = d.toList := by
    rw [← String.toList_ofList (l := Text.trimChars d.toList)]
    exact congrArg String.toList h
  rw [plain, htrim, dropWildcards_map_toLower]

/-- A domain covers what a domain below it covers.  The one in the middle is a text of a rule, so
it is trimmed; nothing else keeps it from being two different domains as a host and as a rule. -/
theorem covers_of_covers {a b c : String} (hb : Text.trim b = b) (hab : covers a b = true)
    (hbc : covers b c = true) : covers a c = true := by
  obtain ⟨hne, hcovered⟩ := covers_iff.1 hab
  obtain ⟨_, hhost⟩ := covers_iff.1 hbc
  have hfixed : dropWildcards (plain a) = plain a := by
    rw [plain, dropWildcards_map_toLower, dropWildcards_dropWildcards]
  have hbelow := covered_dropWildcards hfixed hcovered
  rw [← plain_of_trim hb] at hbelow
  refine covers_iff.2 ⟨hne, ?_⟩
  rcases hbelow with heq | hsuffix
  · rw [← heq]
    exact hhost
  · rcases hhost with hsame | hparent
    · exact Or.inr (hsame ▸ hsuffix)
    · exact Or.inr ((hsuffix.trans (List.suffix_cons '.' _)).trans hparent)

theorem plain_suffix_of_covers {d host : String} (h : covers d host = true) :
    plain d <:+ host.toList.map Char.toLower := by
  rcases (covers_iff.1 h).2 with heq | hsuffix
  · exact heq ▸ List.suffix_refl _
  · exact (List.suffix_cons '.' _).trans hsuffix

/-- Of two domains that cover a host, the one with the shorter plain form covers the other. -/
theorem covers_of_common_host {a b host : String} (hb : Text.trim b = b)
    (hahost : covers a host = true) (hbhost : covers b host = true)
    (hlength : (plain a).length ≤ (plain b).length) : covers a b = true := by
  obtain ⟨hne, hcovered⟩ := covers_iff.1 hahost
  have hbsuffix : plain b <:+ host.toList.map Char.toLower := plain_suffix_of_covers hbhost
  have hlower := eq_dropWildcards_or (b.toList.map Char.toLower)
  rw [← plain_of_trim hb] at hlower
  refine covers_iff.2 ⟨hne, ?_⟩
  rcases Nat.lt_or_ge (plain a).length (plain b).length with hshorter | hlonger
  · -- The host is below the first domain, after a dot that the second one has in it.
    right
    rcases hcovered with heq | hbelow
    · have hle := hbsuffix.length_le
      rw [heq] at hle
      omega
    · have hinside : ('.' :: plain a) <:+ plain b :=
        List.suffix_of_suffix_length_le hbelow hbsuffix hshorter
      rcases hlower with heq | hsuffix
      · rwa [heq]
      · exact hinside.trans ((List.suffix_cons '.' _).trans hsuffix)
  · have hsuffix : plain a <:+ plain b :=
      List.suffix_of_suffix_length_le (plain_suffix_of_covers hahost) hbsuffix hlength
    rw [hsuffix.eq_of_length_le hlonger]
    exact hlower

/-- Of two trimmed domains that cover a host, one covers the other. -/
theorem covers_or_covers {a b host : String} (ha : Text.trim a = a) (hb : Text.trim b = b)
    (hahost : covers a host = true) (hbhost : covers b host = true) :
    covers a b = true ∨ covers b a = true := by
  rcases Nat.le_total (plain a).length (plain b).length with hle | hle
  · exact Or.inl (covers_of_common_host hb hahost hbhost hle)
  · exact Or.inr (covers_of_common_host ha hbhost hahost hle)

/-- **Domains form a forest.**  In any letter case and with any wildcards in front, a domain covers
all that a trimmed domain below it covers; and of two trimmed domains that cover one host, one
covers the other. -/
theorem coverage_nested {b : String} (hb : Text.trim b = b) (a : String) :
    (∀ c, covers a b = true → covers b c = true → covers a c = true) ∧
      (Text.trim a = a → ∀ host, covers a host = true → covers b host = true →
        covers a b = true ∨ covers b a = true) :=
  ⟨fun _ hab hbc => covers_of_covers hb hab hbc,
    fun ha _ hahost hbhost => covers_or_covers ha hb hahost hbhost⟩

/-- A part of a domain, listed in another letter case and with more wildcards. -/
theorem coverage_nested_cameras :
    Text.trim "*.*.CAMS.example.COM" = "*.*.CAMS.example.COM" ∧
      Text.trim "*.Example.com" = "*.Example.com" ∧
      covers "*.Example.com" "*.*.CAMS.example.COM" = true ∧
      covers "*.*.CAMS.example.COM" "*.nvr.Cams.Example.com" = true ∧
      covers "*.Example.com" "*.nvr.Cams.Example.com" = true ∧
      (covers "*.Example.com" "*.*.CAMS.example.COM" = true ∨
        covers "*.*.CAMS.example.COM" "*.Example.com" = true) := by
  have hb : Text.trim "*.*.CAMS.example.COM" = "*.*.CAMS.example.COM" := by decide
  have ha : Text.trim "*.Example.com" = "*.Example.com" := by decide
  have hab : covers "*.Example.com" "*.*.CAMS.example.COM" = true := by decide
  have hbc : covers "*.*.CAMS.example.COM" "*.nvr.Cams.Example.com" = true := by decide
  obtain ⟨htrans, hnested⟩ := coverage_nested hb "*.Example.com"
  have hac := htrans "*.nvr.Cams.Example.com" hab hbc
  exact ⟨hb, ha, hab, hbc, hac, hnested ha "*.nvr.Cams.Example.com" hac hbc⟩

/-- The domain in the middle has to be trimmed: this one is another domain as a host than it is as a
rule's. -/
example : covers "*. *.lab.lan" " *.lab.lan" = true ∧ covers " *.lab.lan" "lab.lan" = true ∧
    covers "*. *.lab.lan" "lab.lan" = false := by decide

end Net.Domain

namespace Scope

theorem hasHost_of_byDomains {outer inner : List String}
    (htrim : ∀ d ∈ inner, Text.trim d = d) (h : byDomains.contains outer inner = true)
    {host : String} (hhost : inner.any (Net.Domain.covers · host) = true) :
    outer.any (Net.Domain.covers · host) = true := by
  obtain ⟨d, hd, hcovers⟩ := List.any_eq_true.1 hhost
  obtain ⟨o, ho, habove⟩ := List.any_eq_true.1 (List.all_eq_true.1 h d hd)
  exact List.any_eq_true.2 ⟨o, ho, Net.Domain.covers_of_covers (htrim d hd) habove hcovers⟩

theorem overlaps_of_host {a b : List String} (hatrim : ∀ d ∈ a, Text.trim d = d)
    (hbtrim : ∀ d ∈ b, Text.trim d = d) {host : String}
    (ha : a.any (Net.Domain.covers · host) = true) (hb : b.any (Net.Domain.covers · host) = true) :
    byDomains.overlaps a b = true := by
  obtain ⟨x, hx, hxhost⟩ := List.any_eq_true.1 ha
  obtain ⟨y, hy, hyhost⟩ := List.any_eq_true.1 hb
  have hnested := Net.Domain.covers_or_covers (hatrim x hx) (hbtrim y hy) hxhost hyhost
  exact List.any_eq_true.2
    ⟨x, hx, List.any_eq_true.2 ⟨y, hy, Bool.or_eq_true_iff.2 hnested⟩⟩

end Scope

end SiteAudit

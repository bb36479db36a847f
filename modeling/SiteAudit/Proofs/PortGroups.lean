import SiteAudit.Firewall.Group
import SiteAudit.Proofs.Comparisons

/-!
# The ports of a group

A port group lists texts, each of which may itself be a specification with commas,
ranges and blanks.  A reference to the group stands for one specification that joins
these texts with commas, and a port is looked for in that one only.

Nothing is lost or gained on the way.  A comma is not blank, so the entries of the
joined text are those of the members, one member after the other: trimming a member
first changes no entry, and members without an entry add none.  What can be read of
every member can therefore be read of the whole, and one entry that cannot be read
makes the whole group stand for no port.

## Main results

* `PortSpec.entries_joinWith`, `PortSpec.entries_trim` — the entries of joined texts
  are those of the texts, trimmed or not.
* `PortSpec.exists_entry_iff` — an entry is a port or a range in order.
* `GroupTable.get_of_isLastWith` — the group that counts among those with one id.
* `GroupTable.group_stands_for_ports` — what a reference to a port group stands for.
-/

namespace SiteAudit

namespace PortSpec

/-! ## Entries -/

theorem isBlank_comma : Text.isBlank ',' = false := by decide

theorem not_mem_of_blanks {blanks : List Char} (h : ∀ c ∈ blanks, Text.isBlank c = true) {c : Char}
    (hc : Text.isBlank c = false) : c ∉ blanks := by
  intro hmem
  rw [h c hmem] at hc
  cases hc

/-- The pieces between the commas, trimmed, do not depend on blanks around the text. -/
theorem trimmed_pieces_trimChars (s : List Char) :
    (Text.pieces ',' (Text.trimChars s)).map Text.trimChars =
      (Text.pieces ',' s).map Text.trimChars := by
  obtain ⟨front, back, hs, hfront, hback⟩ := Text.exists_blanks_around s
  have hcomma : ',' ∉ front ∧ ',' ∉ back :=
    ⟨not_mem_of_blanks hfront isBlank_comma, not_mem_of_blanks hback isBlank_comma⟩
  obtain ⟨before, last, htrimmed, hafter⟩ :=
    Text.exists_pieces_append_of_not_mem hcomma.2 (Text.trimChars s)
  obtain ⟨first, rest, hpieces⟩ := List.exists_cons_of_ne_nil
    (Text.pieces_ne_nil ',' (Text.trimChars s ++ back))
  have hwhole : Text.pieces ',' s = (front ++ first) :: rest := by
    rw [hs]
    exact Text.pieces_append_of_not_mem hcomma.1 hpieces
  calc (Text.pieces ',' (Text.trimChars s)).map Text.trimChars
      = (before ++ [last ++ back]).map Text.trimChars := by
        rw [htrimmed, List.map_append, List.map_append, List.map_singleton, List.map_singleton,
          Text.trimChars_append_right hback]
    _ = (first :: rest).map Text.trimChars := by rw [← hafter, hpieces]
    _ = (Text.pieces ',' s).map Text.trimChars := by
        rw [hwhole, List.map_cons, List.map_cons, Text.trimChars_append_left hfront]

/-- Blanks around a specification change none of its entries. -/
theorem entries_trim (spec : String) : entries (Text.trim spec) = entries spec := by
  rw [entries, entries, Text.trim, String.toList_ofList, trimmed_pieces_trimChars]

/-- A blank specification has no entries. -/
theorem entries_of_blank {spec : String} (h : Text.trim spec = "") : entries spec = [] := by
  rw [← entries_trim, h]
  decide

/-- The entries of joined texts are those of the texts. -/
theorem entries_joinWith (texts : List String) :
    entries (Text.joinWith "," texts) = texts.flatMap entries := by
  induction texts with
  | nil => decide
  | cons text texts ih =>
      cases texts with
      | nil => simp [Text.joinWith]
      | cons next rest =>
          have hjoin : (Text.joinWith "," (text :: next :: rest)).toList =
              text.toList ++ ',' :: (Text.joinWith "," (next :: rest)).toList := by
            simp [Text.joinWith]
          rw [List.flatMap_cons, ← ih, entries, hjoin, Text.pieces_append_separator,
            List.map_append, List.filter_append]
          rfl

/-- The members of a group that are not blank have the entries of all members. -/
theorem entries_nonBlank (members : List String) :
    entries (Text.joinWith "," (members.filterMap Text.nonBlank?)) = members.flatMap entries := by
  rw [entries_joinWith]
  induction members with
  | nil => rfl
  | cons member members ih =>
      by_cases hblank : Text.trim member = ""
      · have hnone : Text.nonBlank? member = none := by simp [Text.nonBlank?, hblank]
        rw [List.filterMap_cons_none hnone, ih, List.flatMap_cons, entries_of_blank hblank,
          List.nil_append]
      · have hsome : Text.nonBlank? member = some (Text.trim member) := by
          simp [Text.nonBlank?, hblank]
        rw [List.filterMap_cons_some hsome, List.flatMap_cons, List.flatMap_cons, ih, entries_trim]

/-! ## Ports and ranges as texts -/

/-- The text is a port. -/
def IsPort (s : List Char) : Prop := ∃ port, port? s = some port

/-- The text is two ports in order with a dash between them. -/
def IsOrderedRange (s : List Char) : Prop :=
  ∃ low high first last, s = low ++ '-' :: high ∧ port? low = some first ∧
    port? high = some last ∧ first ≤ last

theorem port_le {s : List Char} {port : Nat} (h : port? s = some port) : port ≤ maxPort := by
  simpa using (Option.filter_eq_some_iff.1 h).2

theorem dash_not_mem_of_value {s : List Char} {start n : Nat}
    (h : Numeral.value? 10 start s = some n) : '-' ∉ s := by
  induction s generalizing start with
  | nil => exact List.not_mem_nil
  | cons c s ih =>
      obtain ⟨digit, hdigit, hrest⟩ := Option.bind_eq_some_iff.1 h
      have hdash : Numeral.digit? 10 '-' = none := by decide
      have hc : '-' ≠ c := by
        rintro rfl
        rw [hdash] at hdigit
        cases hdigit
      exact List.not_mem_cons_of_ne_of_not_mem hc (ih hrest)

theorem dash_not_mem_of_digits {s : List Char} {n : Nat} (h : Numeral.digits? 10 s = some n) :
    '-' ∉ s := by
  rw [Numeral.digits?] at h
  split at h
  · cases h
  · exact dash_not_mem_of_value h

/-- A port has no dash, so an entry with a dash is a range or nothing. -/
theorem dash_not_mem_of_port {s : List Char} {port : Nat} (h : port? s = some port) : '-' ∉ s := by
  have htrimmed : '-' ∉ Text.trimChars s := by
    obtain ⟨hdigits, _⟩ := Option.filter_eq_some_iff.1 h
    cases hword : Text.trimChars s with
    | nil => exact List.not_mem_nil
    | cons c word =>
        rw [hword, List.head?_cons, List.tail_cons] at hdigits
        split at hdigits
        · next hplus =>
          rw [Option.some.inj hplus]
          exact List.not_mem_cons_of_ne_of_not_mem (by decide) (dash_not_mem_of_digits hdigits)
        · exact dash_not_mem_of_digits hdigits
  obtain ⟨front, back, hs, hfront, hback⟩ := Text.exists_blanks_around s
  have hdash : Text.isBlank '-' = false := by decide
  rw [hs, List.mem_append, List.mem_append]
  rintro (hmem | hmem | hmem)
  · exact not_mem_of_blanks hfront hdash hmem
  · exact htrimmed hmem
  · exact not_mem_of_blanks hback hdash hmem

theorem exists_between_iff {first last : Nat} :
    (∃ r, PortRange.between? first last = some r) ↔ first ≤ last ∧ last ≤ maxPort := by
  rw [PortRange.between?, ← Option.isSome_iff_exists]
  split <;> simp_all

/-- An entry can be read exactly if it is a port or a range in order. -/
theorem exists_entry_iff {s : List Char} :
    (∃ r, entry? s = some r) ↔ IsPort s ∨ IsOrderedRange s := by
  unfold entry?
  constructor
  · rintro ⟨r, hr⟩
    split at hr
    · next low high hcut =>
      obtain ⟨first, hfirst, hr⟩ := Option.bind_eq_some_iff.1 hr
      obtain ⟨last, hlast, hr⟩ := Option.bind_eq_some_iff.1 hr
      have hordered := (exists_between_iff.1 ⟨r, hr⟩).1
      exact Or.inr ⟨low, high, first, last, (Text.cut_eq_some hcut).1, hfirst, hlast, hordered⟩
    · obtain ⟨port, hport, _⟩ := Option.bind_eq_some_iff.1 hr
      exact Or.inl ⟨port, hport⟩
  · rintro (⟨port, hport⟩ | ⟨low, high, first, last, rfl, hfirst, hlast, hordered⟩)
    · have hcut : Text.cut '-' s = none := by
        rw [Option.eq_none_iff_forall_ne_some]
        intro parts hparts
        refine dash_not_mem_of_port hport ?_
        rw [(Text.cut_eq_some hparts).1]
        exact List.mem_append_right _ List.mem_cons_self
      simp only [hcut, hport, Option.bind_eq_bind, Option.bind_some]
      exact exists_between_iff.2 ⟨Nat.le_refl _, port_le hport⟩
    · rw [Text.cut_append (dash_not_mem_of_port hfirst)]
      simp only [hfirst, hlast, Option.bind_eq_bind, Option.bind_some]
      exact exists_between_iff.2 ⟨hordered, port_le hlast⟩

/-! ## Ranges -/

theorem ranges_eq_some_iff {spec : String} {found : List PortRange} :
    ranges? spec = some found ↔ (entries spec).mapM entry? = some found ∧ found ≠ [] := by
  rw [ranges?]
  cases (entries spec).mapM entry? with
  | none => simp
  | some all =>
      rw [Option.bind_eq_bind, Option.bind_some]
      cases all with
      | nil => simp
      | cons first rest => simpa using fun h : first :: rest = found => h ▸ List.cons_ne_nil _ _

/-- A specification with an entry that cannot be read has no meaning. -/
theorem ranges_eq_none_of_entry {spec : String} {entry : List Char} (hmem : entry ∈ entries spec)
    (h : entry? entry = none) : ranges? spec = none := by
  have hnone : ∀ all : List (List Char), entry ∈ all → all.mapM entry? = none := by
    intro all
    induction all with
    | nil => exact fun hmem => absurd hmem List.not_mem_nil
    | cons other all ih =>
        intro hmem
        rw [List.mapM_cons]
        rcases List.mem_cons.1 hmem with rfl | hmem
        · rw [h]
          rfl
        · rw [ih hmem]
          cases entry? other <;> rfl
  rw [ranges?, hnone _ hmem]
  rfl

theorem includes_eq_false {spec : String} (h : ranges? spec = none) (port : String) :
    includes spec port = false := by
  rw [Bool.eq_false_iff]
  intro hincludes
  obtain ⟨_, _, _, hsome, _⟩ := Scope.includes_iff.1 hincludes
  rw [h] at hsome
  cases hsome

/-- If all members that are not blank can be read, all their entries can be read together. -/
theorem mapM_entries_members {members : List String}
    (h : ∀ m ∈ members, Text.trim m ≠ "" → (ranges? m).isSome = true) :
    (members.flatMap entries).mapM entry? =
      some (members.flatMap fun m => (ranges? m).getD []) := by
  induction members with
  | nil => rfl
  | cons member members ih =>
      have hrest := ih fun m hm => h m (List.mem_cons_of_mem _ hm)
      have hmember : (entries member).mapM entry? = some ((ranges? member).getD []) := by
        by_cases hblank : Text.trim member = ""
        · have hnone : ranges? member = none := by rw [ranges?, entries_of_blank hblank]; rfl
          rw [entries_of_blank hblank, hnone]
          rfl
        · obtain ⟨found, hfound⟩ := Option.isSome_iff_exists.1 (h member List.mem_cons_self hblank)
          rw [hfound, (ranges_eq_some_iff.1 hfound).1]
          rfl
      rw [List.flatMap_cons, List.mapM_append, hmember, hrest]
      rfl

end PortSpec

namespace GroupTable

/-! ## The group that counts -/

/-- The last group with this id in a list. -/
def IsLastWith (groups : List Group) (id : String) (g : Group) : Prop :=
  ∃ front back, groups = front ++ g :: back ∧ g.id = id ∧ ∀ other ∈ back, other.id ≠ id

theorem get_of_isLastWith {groups : List Group} {id : String} {g : Group}
    (h : IsLastWith groups id g) : (ofList groups).get? id = some g := by
  obtain ⟨front, back, rfl, hid, hback⟩ := h
  have hnone : back.reverse.find? (·.id == id) = none := by
    rw [List.find?_eq_none]
    exact fun other hother => by simpa using hback other (List.mem_reverse.1 hother)
  rw [get_ofList, List.reverse_append, List.find?_append, List.reverse_cons, List.find?_append,
    hnone]
  simp [hid]

/-- An id that no group has stands for no group. -/
theorem get_of_forall_ne {groups : List Group} {id : String} (h : ∀ g ∈ groups, g.id ≠ id) :
    (ofList groups).get? id = none := by
  rw [get_ofList, List.find?_eq_none]
  exact fun g hg => by simpa using h g (List.mem_reverse.1 hg)

/-! ## The joined specification -/

/-- What an id stands for depends on the group with this id only. -/
theorem ports_congr {a b : GroupTable} {id : String} (h : a.get? id = b.get? id) :
    a.ports? id = b.ports? id := by
  rw [ports?, ports?, members?, members?, h]

/-- A group stands for its members joined, if it lists ports and some member is not blank. -/
theorem ports_eq_some_iff {table : GroupTable} {id : String} {g : Group}
    (h : table.get? id = some g) {text : String} :
    table.ports? id = some text ↔
      g.type = .port ∧ (∃ m ∈ g.members, Text.trim m ≠ "") ∧
        Text.joinWith "," (g.members.filterMap Text.nonBlank?) = text := by
  rw [ports?, Option.map_eq_some_iff]
  have hne : g.members.filterMap Text.nonBlank? ≠ [] ↔ ∃ m ∈ g.members, Text.trim m ≠ "" := by
    simp [Text.nonBlank?, List.filterMap_eq_nil_iff]
  constructor
  · rintro ⟨found, hfound, rfl⟩
    obtain ⟨group, hgroup, htype, rfl, hfilled⟩ := members_eq_some_iff.1 hfound
    cases h.symm.trans hgroup
    exact ⟨by simpa using htype, hne.1 hfilled, rfl⟩
  · rintro ⟨htype, hfilled, rfl⟩
    exact ⟨_, members_eq_some_iff.2 ⟨g, h, by simp [htype], rfl, hne.2 hfilled⟩, rfl⟩

end GroupTable

namespace PortSpec

variable {members : List String}

/-- Where every member that is not blank can be read, the whole has their ranges in order. -/
theorem ranges_joined (hfilled : ∃ m ∈ members, Text.trim m ≠ "")
    (h : ∀ m ∈ members, Text.trim m ≠ "" → (ranges? m).isSome = true) :
    ranges? (Text.joinWith "," (members.filterMap Text.nonBlank?)) =
      some (members.flatMap fun m => (ranges? m).getD []) := by
  refine ranges_eq_some_iff.2 ⟨?_, ?_⟩
  · rw [entries_nonBlank]
    exact mapM_entries_members h
  · obtain ⟨m, hm, hblank⟩ := hfilled
    obtain ⟨found, hfound⟩ := Option.isSome_iff_exists.1 (h m hm hblank)
    obtain ⟨r, hr⟩ := List.exists_mem_of_ne_nil found (ranges_eq_some_iff.1 hfound).2
    exact List.ne_nil_of_mem (List.mem_flatMap.2 ⟨m, hm, by rwa [hfound]⟩)

/-- The whole then includes exactly the ports of the members. -/
theorem includes_of_ranges_joined {spec : String}
    (h : ranges? spec = some (members.flatMap fun m => (ranges? m).getD [])) (port : String) :
    includes spec port = true ↔ ∃ m ∈ members, includes m port = true := by
  constructor
  · intro hport
    obtain ⟨n, found, hn, hfound, r, hr, hrange⟩ := Scope.includes_iff.1 hport
    cases h.symm.trans hfound
    obtain ⟨m, hm, hrm⟩ := List.mem_flatMap.1 hr
    cases hmember : ranges? m with
    | none =>
        rw [hmember] at hrm
        cases hrm
    | some own =>
        rw [hmember] at hrm
        exact ⟨m, hm, Scope.includes_iff.2 ⟨n, own, hn, hmember, r, hrm, hrange⟩⟩
  · rintro ⟨m, hm, hport⟩
    obtain ⟨n, own, hn, hown, r, hr, hrange⟩ := Scope.includes_iff.1 hport
    exact Scope.includes_iff.2
      ⟨n, _, hn, h, r, List.mem_flatMap.2 ⟨m, hm, by rwa [hown]⟩, hrange⟩

/-- One entry that is neither a port nor a range leaves the whole without a meaning. -/
theorem ranges_joined_eq_none {m : String} (hm : m ∈ members) {entry : List Char}
    (hentry : entry ∈ entries m) (hport : ¬IsPort entry) (hrange : ¬IsOrderedRange entry) :
    ranges? (Text.joinWith "," (members.filterMap Text.nonBlank?)) = none := by
  have hmem : entry ∈ entries (Text.joinWith "," (members.filterMap Text.nonBlank?)) := by
    rw [entries_nonBlank]
    exact List.mem_flatMap.2 ⟨m, hm, hentry⟩
  refine ranges_eq_none_of_entry hmem ?_
  rw [Option.eq_none_iff_forall_ne_some]
  intro r hread
  rcases exists_entry_iff.1 ⟨r, hread⟩ with h | h
  · exact hport h
  · exact hrange h

end PortSpec

namespace GroupTable

/-! ## Main result -/

/-- A reference to ports is settled by the last group with the id.  It stands for a specification
exactly if that group lists ports and some member is not blank.  If every such member can be read,
the specification has the ranges of the members in order, and so exactly their ports; if an entry
of some member is neither a port nor a range in order, it includes no port at all. -/
theorem group_stands_for_ports (list : List Group) (id : String) :
    ((∀ g ∈ list, g.id ≠ id) → (ofList list).ports? id = none) ∧
    ∀ g, IsLastWith list id g →
      (ofList list).ports? id = (ofList [g]).ports? id ∧
      (((ofList list).ports? id).isSome = true ↔
        g.type = .port ∧ ∃ m ∈ g.members, Text.trim m ≠ "") ∧
      ∀ text, (ofList list).ports? id = some text →
        ((∀ m ∈ g.members, Text.trim m ≠ "" → (PortSpec.ranges? m).isSome = true) →
          PortSpec.ranges? text = some (g.members.flatMap fun m => (PortSpec.ranges? m).getD []) ∧
          ∀ port, PortSpec.includes text port = true ↔
            ∃ m ∈ g.members, PortSpec.includes m port = true) ∧
        ((∃ m ∈ g.members, ∃ entry ∈ PortSpec.entries m,
            ¬PortSpec.IsPort entry ∧ ¬PortSpec.IsOrderedRange entry) →
          ∀ port, PortSpec.includes text port = false) := by
  refine ⟨fun h => ?_, fun g hlast => ?_⟩
  · rw [ports?, members?, get_of_forall_ne h]
    rfl
  have hget := get_of_isLastWith hlast
  obtain ⟨_, _, _, hid, _⟩ := hlast
  have halone : (ofList [g]).get? id = some g :=
    get_of_isLastWith ⟨[], [], rfl, hid, fun _ h => absurd h List.not_mem_nil⟩
  refine ⟨ports_congr (hget.trans halone.symm), ?_, fun text htext => ?_⟩
  · rw [Option.isSome_iff_exists]
    constructor
    · rintro ⟨text, htext⟩
      obtain ⟨htype, hfilled, _⟩ := (ports_eq_some_iff hget).1 htext
      exact ⟨htype, hfilled⟩
    · rintro ⟨htype, hfilled⟩
      exact ⟨_, (ports_eq_some_iff hget).2 ⟨htype, hfilled, rfl⟩⟩
  · obtain ⟨_, hfilled, rfl⟩ := (ports_eq_some_iff hget).1 htext
    refine ⟨fun hread => ?_, ?_⟩
    · have hranges := PortSpec.ranges_joined hfilled hread
      exact ⟨hranges, PortSpec.includes_of_ranges_joined hranges⟩
    · rintro ⟨m, hm, entry, hentry, hport, hrange⟩ port
      exact PortSpec.includes_eq_false (PortSpec.ranges_joined_eq_none hm hentry hport hrange) port

/-- Two groups with one id, of which the later counts, and a group with a reversed range. -/
def serviceGroups : List Group :=
  [⟨"web", "Web", .port, ["8080"]⟩,
   ⟨"mail", "Mail", .port, ["25", "587-465"]⟩,
   ⟨"web", "Web", .port, [" 80,, 8000 - 8010 ", "", "443"]⟩]

/-- The later group with the id `web` stands for its own ports; the reversed range leaves `mail`
without any. -/
theorem group_stands_for_ports_services :
    (ofList serviceGroups).ports? "web" = some "80,, 8000 - 8010,443" ∧
    (∀ port, PortSpec.includes "80,, 8000 - 8010,443" port = true ↔
      ∃ m ∈ [" 80,, 8000 - 8010 ", "", "443"], PortSpec.includes m port = true) ∧
    (ofList serviceGroups).ports? "mail" = some "25,587-465" ∧
    (∀ port, PortSpec.includes "25,587-465" port = false) ∧
    (ofList serviceGroups).ports? "ssh" = none := by
  have hweb : (ofList serviceGroups).ports? "web" = some "80,, 8000 - 8010,443" := by decide +kernel
  have hmail : (ofList serviceGroups).ports? "mail" = some "25,587-465" := by decide +kernel
  have hlastWeb : IsLastWith serviceGroups "web" serviceGroups[2] :=
    ⟨serviceGroups.take 2, [], rfl, rfl, by decide⟩
  have hlastMail : IsLastWith serviceGroups "mail" serviceGroups[1] :=
    ⟨serviceGroups.take 1, serviceGroups.drop 2, rfl, rfl, by decide⟩
  have hreversed : ¬∃ r, PortSpec.entry? "587-465".toList = some r := by
    rw [← Option.isSome_iff_exists]
    decide +kernel
  rw [PortSpec.exists_entry_iff, not_or] at hreversed
  refine ⟨hweb, ?_, hmail, ?_, (group_stands_for_ports serviceGroups "ssh").1 (by decide)⟩
  · refine ((((group_stands_for_ports serviceGroups "web").2 _ hlastWeb).2.2 _ hweb).1 ?_).2
    decide +kernel
  · refine (((group_stands_for_ports serviceGroups "mail").2 _ hlastMail).2.2 _ hmail).2 ?_
    exact ⟨"587-465", by decide, "587-465".toList, by decide +kernel, hreversed⟩

end GroupTable

end SiteAudit

import SiteAudit.Firewall.Protocol

/-!
# Names of protocols in normal form

A protocol that is not one of the six known ones is kept by its name, and the
name is kept as it is compared: trimmed and in small letters.  Reading such a
name once more has to change nothing, or a rule that is stored and read again
would select another protocol than before.

Letter case and blanks do not interfere.  Only the letters from `A` to `Z` change,
neither they nor what they become are blank, so a text has blanks at the same ends
in small letters.

## Main results

* `trim_asciiLower` — a text in small letters is trimmed where the text is.
* `Protocol.parse_name_parse` — the name of a protocol that was read is read as
  the same protocol.
-/

namespace SiteAudit

namespace Text

/-! ## Letter case and blanks -/

theorem toLower_toLower (c : Char) : c.toLower.toLower = c.toLower := by
  rcases toLower_eq_self_or c with h | ⟨hlow, _, hsmall⟩
  · rw [h, h]
  · rcases toLower_eq_self_or c.toLower with h | ⟨_, hhigh, _⟩
    · exact h
    · omega

theorem isBlank_eq_false_of_letter {c : Char} (hlow : 65 ≤ c.toNat) (hhigh : c.toNat ≤ 122) :
    isBlank c = false := by
  apply Bool.eq_false_iff.2
  intro hblank
  obtain ⟨range, hmem, hfirst, hlast⟩ := Ranges.holds_eq_true_iff.1 hblank
  have hout : ∀ range ∈ blankRanges, range.2 < 65 ∨ 122 < range.1 := by decide
  have := hout range hmem
  omega

theorem isBlank_toLower (c : Char) : isBlank c.toLower = isBlank c := by
  rcases toLower_eq_self_or c with h | ⟨hlow, hhigh, hsmall⟩
  · rw [h]
  · rw [isBlank_eq_false_of_letter hlow (by omega),
      isBlank_eq_false_of_letter (by omega) (by omega)]

theorem dropWhile_map_toLower (s : List Char) :
    (s.map Char.toLower).dropWhile isBlank = (s.dropWhile isBlank).map Char.toLower := by
  have hsame : isBlank ∘ Char.toLower = isBlank := funext isBlank_toLower
  rw [List.dropWhile_map, hsame]

theorem trimChars_map_toLower (s : List Char) :
    trimChars (s.map Char.toLower) = (trimChars s).map Char.toLower := by
  rw [trimChars, trimEnd, dropWhile_map_toLower, ← List.map_reverse, dropWhile_map_toLower,
    ← List.map_reverse]
  rfl

/-- A text in small letters is trimmed where the text is. -/
theorem trim_asciiLower (s : String) : trim (asciiLower s) = asciiLower (trim s) := by
  simp only [trim, asciiLower, String.toList_ofList, trimChars_map_toLower]

theorem asciiLower_asciiLower (s : String) : asciiLower (asciiLower s) = asciiLower s := by
  have htwice : Char.toLower ∘ Char.toLower = Char.toLower := funext toLower_toLower
  simp only [asciiLower, String.toList_ofList, List.map_map, htwice]

end Text

/-! ## Protocols -/

namespace Protocol

/-- The protocols that are known by name. -/
def known : List Protocol := [all, tcp, udp, tcpUdp, icmp, icmpv6]

theorem ofName_eq_other_or (word : String) : ofName word = .other word ∨ ofName word ∈ known := by
  unfold ofName
  repeat' split
  all_goals simp [known]

theorem parse_name_of_known {p : Protocol} (hp : p ∈ known) : parse p.name = p := by
  revert p
  decide

/-- The name of a protocol that was read is read as the same protocol. -/
theorem parse_name_parse (text : String) : parse (parse text).name = parse text := by
  let word := Text.asciiLower (Text.trim text)
  have hnormal : Text.asciiLower (Text.trim word) = word := by
    rw [Text.trim_asciiLower, Text.trim_trim, Text.asciiLower_asciiLower]
  rcases ofName_eq_other_or word with h | h
  · have hparse : parse text = .other word := h
    rw [hparse]
    show ofName (Text.asciiLower (Text.trim word)) = .other word
    rw [hnormal, h]
  · exact parse_name_of_known h

end Protocol

end SiteAudit

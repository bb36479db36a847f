import SiteAudit.Network.Purpose
import SiteAudit.Text.Letter
import SiteAudit.Text.LowerCase
import SiteAudit.Text.Pieces

/-!
# Telling the purpose of a network

The name of a network is the best hint. Keyword families are tried in a fixed
order, and the first that matches the name in small letters decides. Where
the name says nothing, the VLAN and two switches of the network do; and a
trusted name on a network that is isolated and offline is not believed.

## Main results

* `containsWord_iff` — a word made of letters is found exactly if it stands
  somewhere between characters that are not letters.
-/

namespace SiteAudit

/-! ## Keywords -/

/-- Whether a character that may be missing is no letter. -/
def boundedBy (c : Option Char) : Bool := !c.any Text.isLetter

/-- Whether the word has a place in the text with no letter before and after it. -/
def containsWord (text word : String) : Bool :=
  (Text.places word.toList text.toList).any fun (before, after) =>
    boundedBy before.getLast? && boundedBy after.head?

/-- The keywords for a purpose: some count anywhere in a name, others only as whole words. -/
structure KeywordFamily where
  purpose : Purpose
  substrings : List String
  words : List String
deriving Repr

namespace KeywordFamily

/-- Whether a name in small letters holds one of the keywords. -/
def matchesName (family : KeywordFamily) (name : String) : Bool :=
  (family.substrings.any fun keyword => Text.occursIn keyword.toList name.toList) ||
    family.words.any (containsWord name)

/-- The families, in the order in which they are tried. -/
def all : List KeywordFamily :=
  [{ purpose := .iot
     substrings := ["iot", "smart", "automation", "zigbee", "zwave", "z-wave", "homekit", "alexa"]
     words := ["media", "tv", "hue", "nest", "sensor", "sensors", "appliance", "appliances",
       "things"] },
    { purpose := .security
      substrings := ["camera", "security", "surveillance", "cctv", "protect"]
      words := ["cam", "cams", "nvr", "doorbell", "alarm"] },
    { purpose := .management
      substrings := ["management", "mgmt", "infrastructure"]
      words := ["mgt", "infra", "admin", "oob", "ipmi", "idrac"] },
    { purpose := .guest
      substrings := ["guest", "visitor", "hotspot"]
      words := ["public", "byod"] },
    { purpose := .corporate
      substrings := ["corporate", "office", "business", "enterprise"]
      words := ["work", "corp", "staff", "employee", "employees"] },
    { purpose := .home
      substrings := ["home", "family", "house", "residential", "personal"]
      words := ["main", "primary", "trusted", "private"] },
    { purpose := .server
      substrings := ["server", "datacenter", "storage"]
      words := ["dmz", "nas", "lab", "srv", "hosting", "services"] }]

end KeywordFamily

/-! ## Purposes -/

/-- The purpose that a name suggests. -/
def Purpose.ofNetworkName? (name : String) : Option Purpose :=
  (KeywordFamily.all.find? (·.matchesName (Text.lower name))).map (·.purpose)

/-- What is known of a network besides its name. A switch that is not known decides nothing. -/
structure NetworkSignals where
  /-- The purpose that the controller itself states. -/
  purpose : Option String
  vlan : Option UInt16
  isolated : Option Bool
  internet : Option Bool

namespace NetworkSignals

/-- Whether this is the native VLAN. -/
def isNative (s : NetworkSignals) : Bool := s.vlan == some 1

/-- Whether the network is known to be isolated and offline. -/
def isLockedDown (s : NetworkSignals) : Bool := s.isolated == some true && s.internet == some false

/-- The purpose of a network whose name says nothing. -/
def purposeOfUnnamed (s : NetworkSignals) : Purpose :=
  if s.isNative then .management
  else match s.isolated, s.internet with
    | some true, some false => .security
    | some true, some true => .iot
    | _, _ => .unknown

/-- The purpose in place of one that the name suggests. -/
def correct (s : NetworkSignals) (suggested : Purpose) : Purpose :=
  if (suggested == .home || suggested == .corporate) && s.isLockedDown then
    if s.isNative then .management else .security
  else suggested

end NetworkSignals

/-- The purpose of a network. What the controller calls a guest network is one. -/
def Purpose.classify (name : String) (s : NetworkSignals) : Purpose :=
  if s.purpose.any (Text.sameAsciiFold "guest") then .guest
  else match Purpose.ofNetworkName? name with
    | some suggested => s.correct suggested
    | none => s.purposeOfUnnamed

/-! ## Laws -/

theorem boundedBy_iff {c : Option Char} :
    boundedBy c = true ↔ ∀ d ∈ c, Text.isLetter d = false := by
  simp [boundedBy, Option.any_eq_false]

/-- A word made of letters is found exactly if it stands somewhere between characters that are not
letters.  Only places that do not overlap are looked at, but no other place has such a character
before it. -/
theorem containsWord_iff {text word : String} (hne : word ≠ "")
    (hword : ∀ c ∈ word.toList, Text.isLetter c = true) :
    containsWord text word = true ↔ ∃ before after,
      text.toList = before ++ word.toList ++ after ∧
        (∀ c ∈ before.getLast?, Text.isLetter c = false) ∧
        (∀ c ∈ after.head?, Text.isLetter c = false) := by
  have hchars : word.toList ≠ [] := fun h => hne (String.toList_eq_nil_iff.1 h)
  simp only [containsWord, List.any_eq_true, Prod.exists, Bool.and_eq_true, boundedBy_iff]
  constructor
  · rintro ⟨before, after, hmem, hbounds⟩
    exact ⟨before, after, Text.eq_of_mem_places hmem, hbounds⟩
  · rintro ⟨before, after, htext, hbefore, hafter⟩
    exact ⟨before, after, Text.mem_places hchars hword htext hbefore, hbefore, hafter⟩

end SiteAudit

import SiteAudit.Text.Ascii
import SiteAudit.Text.Blank
import SiteAudit.Text.Pieces

/-!
# Web domains

A domain in a rule stands for itself and for all its subdomains. Leading `*.`
add nothing, and ASCII letter case does not count.
-/

namespace SiteAudit.Net.Domain

/-- The characters after all leading `*.`. -/
def dropWildcards : List Char → List Char
  | '*' :: '.' :: rest => dropWildcards rest
  | s => s

/-- A domain of a rule in its plain form. -/
def plain (domain : String) : List Char :=
  (dropWildcards (Text.trimChars domain.toList)).map Char.toLower

/-- Whether the domain of a rule covers a host: the host itself or a parent of it. -/
def covers (domain host : String) : Bool :=
  let domain := plain domain
  let host := host.toList.map Char.toLower
  !domain.isEmpty && (host == domain || ('.' :: domain).isSuffixOf host)

/-- A host is covered exactly by a domain that ends it, after a dot or as a whole. -/
theorem covers_iff {domain host : String} :
    covers domain host = true ↔ plain domain ≠ [] ∧
      (host.toList.map Char.toLower = plain domain ∨
        ('.' :: plain domain) <:+ host.toList.map Char.toLower) := by
  simp [covers, List.isSuffixOf_iff_suffix]

end SiteAudit.Net.Domain

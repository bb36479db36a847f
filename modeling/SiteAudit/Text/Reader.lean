/-!
# Readers

A reader takes what it can use from the front of a text, and leaves the rest
to others. It fails if the front is not what it reads.
-/

namespace SiteAudit.Text

/-- A reader of what stands at the front, with what is left behind it. -/
abbrev Reader (α : Type) := List Char → Option (α × List Char)

end SiteAudit.Text

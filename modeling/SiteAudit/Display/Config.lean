import SiteAudit.Config.Basic
import SiteAudit.Display.Format
import SiteAudit.Toml.Writer

/-!
# Showing configurations

A configuration as the text of a configuration file and as JSON. A setting
that is not made is left out of the file.
-/

namespace SiteAudit.Config

/-- A line of a configuration file. -/
def line (name value : String) : String := name ++ " = " ++ value ++ "\n"

/-- The line of a setting that need not be made. -/
def line? (name : String) (value : Option String) : String :=
  value.elim "" fun text => line name (Toml.Writer.text text)

/-- The text of a file that holds a configuration. -/
def fileText (c : Config) : String :=
  "[defaults]\n" ++
    line "output" (Toml.Writer.text c.defaults.output) ++
    line "color" (Toml.Writer.text c.defaults.color) ++
  "\n[audit]\n" ++
    line? "min_severity" c.audit.minSeverity ++
    line "disabled_checks" (Toml.Writer.texts c.audit.disabledChecks) ++
    line? "fail_on" c.audit.failOn

/-- A configuration as JSON. -/
def toJson (c : Config) : Json :=
  .object
    [("defaults", .object
        [("output", .string c.defaults.output), ("color", .string c.defaults.color)]),
      ("audit", .object
        [("min_severity", .ofOption .string c.audit.minSeverity),
          ("disabled_checks", .strings c.audit.disabledChecks),
          ("fail_on", .ofOption .string c.audit.failOn)])]

/-- A configuration as it is shown. -/
def view (c : Config) : View := ⟨c.fileText, c.toJson, c.fileText⟩

end SiteAudit.Config

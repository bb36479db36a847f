import SiteAudit.Display.Color
import SiteAudit.Display.Format
import SiteAudit.Layout.Table
import SiteAudit.Record.Finding

/-!
# Showing audits

The report of an audit: in a table its findings and the score, as a value
everything together with the time, and in plain text the codes of the
findings.
-/

namespace SiteAudit

/-- The name of a severity, in its color if colors are wanted. -/
def Severity.shown (color : Bool) (s : Severity) : String :=
  if color then
    match s with
    | .critical => Hue.red.paintBold s.name
    | .recommended => Hue.yellow.paint s.name
    | .informational => Hue.cyan.paint s.name
  else s.name

/-- The network that a finding is about, with its VLAN. -/
def Finding.networkCell (f : Finding) : String :=
  match f.currentNetwork, f.currentVlan with
  | some name, some vlan => name ++ " (" ++ Numeral.decimal vlan.toNat ++ ")"
  | some name, none => name
  | none, _ => ""

/-- The message of a finding, and below it the summary in brackets if there is one. -/
def Finding.messageCell (f : Finding) : String :=
  if f.description.isEmpty then f.message else f.message ++ "\n[" ++ f.description ++ "]"

/-- A finding as a row of a table. -/
def Finding.row (color : Bool) (f : Finding) : List String :=
  [f.severity.shown color, f.kind.code, "-" ++ Numeral.decimal f.impact.toNat, f.networkCell,
    f.ruleId.getD "", f.messageCell]

namespace Report

/-- The color of a score. -/
def scoreHue (score : UInt32) : Hue :=
  if 90 ≤ score then .green else if 70 ≤ score then .yellow else .red

/-- The score, in its color if colors are wanted. -/
def shownScore (color : Bool) (r : Report) : String :=
  let text := Numeral.decimal r.score.toNat ++ "/100"
  if color then (scoreHue r.score).paintBold text else text

/-- The score and the number of findings of each severity, in one line. -/
def summary (color : Bool) (r : Report) : String :=
  "Security score: " ++ r.shownScore color ++ "  (" ++ Numeral.decimal r.critical ++
    " critical, " ++ Numeral.decimal r.recommended ++ " recommended, " ++
    Numeral.decimal r.informational ++ " informational)"

/-- The findings of a report as a table. -/
def findingsTable (color : Bool) (r : Report) : Layout.Table :=
  ⟨["Severity", "Code", "Score", "Network", "Rule", "Finding"], r.findings.map (Finding.row color)⟩

/-- A report as it is shown; `time` is when the audit ran. -/
def view (color : Bool) (time : String) (r : Report) : View where
  table :=
    (if r.isClean then "No findings." else (r.findingsTable color).text) ++ "\n" ++ r.summary color
  value := .object (("generated_at", .string time) :: r.jsonFields)
  plain := Text.joinWith "\n" (r.findings.map (·.kind.code))

end Report

end SiteAudit

import SiteAudit.Audit.Run
import SiteAudit.CommandLine.Failure
import SiteAudit.CommandLine.Invocation
import SiteAudit.Config.Layers
import SiteAudit.Display.Audit
import SiteAudit.Display.Config
import SiteAudit.Display.Inventory
import SiteAudit.Display.Trace
import SiteAudit.Finding.Report
import SiteAudit.Json.Reader

/-!
# Running requests

A request is carried out in its surroundings: files, environment variables,
the terminal and the time. Its outcome is what is printed, the failure if
there is one, and the file to be written if there is one; the surroundings
themselves do not change.

Requests about a site first look at the configuration, then at the settings
on the command line, and only then at the documents, in a fixed order.

## Main results

* `audit_fails_iff` — an audit with a report fails exactly if one of its
  findings reaches the threshold.
-/

namespace SiteAudit.CommandLine

/-! ## Surroundings -/

/-- What is found at a path. -/
inductive Reading where
  | text (content : String)
  | missing
  /-- Something that is no file, or a path through something that is no directory. -/
  | noFile
  | unreadable
deriving Repr, DecidableEq

/-- What a request depends on besides its own words. -/
structure Surroundings where
  /-- What is found at a path. -/
  read : String → Reading
  /-- Whether there is anything at a path. -/
  isThere : String → Bool
  environment : List (String × String)
  /-- Whether results are printed on a terminal. -/
  terminal : Bool
  /-- The present time, as it is written into results. -/
  time : String

namespace Surroundings

/-- The path of the configuration file unless another one is given. -/
def configPath (s : Surroundings) : String :=
  let home := match s.environment.lookup "XDG_CONFIG_HOME" with
    | some path => if path.startsWith "/" then some path else none
    | none => none
  let home := home.getD ((s.environment.lookup "HOME").getD "." ++ "/.config")
  home ++ "/uniaudit/config.toml"

/-- The configuration, with the file at this path. Where there is no file, nothing is set by it. -/
def config (s : Surroundings) (path : String) : Except Failure Config :=
  let loaded := match s.read path with
    | .text document => Config.load? (some document) s.environment
    | .missing | .noFile => Config.load? none s.environment
    | .unreadable => none
  loaded.elim (.error .configUnusable) .ok

/-- The document in a file. -/
def document (s : Surroundings) (path : String) : Except Failure Json :=
  match s.read path with
  | .text content => (Json.parse content).elim (.error (.invalidDocument path)) .ok
  | .missing => .error (.fileNotFound path)
  | .noFile | .unreadable => .error (.readFailed path)

/-- The document in a file that need not be named. -/
def document? (s : Surroundings) : Option String → Except Failure (Option Json)
  | none => .ok none
  | some path => (s.document path).map some

/-- The site whose documents are in files. -/
def site (s : Surroundings) (files : SiteFiles) : Except Failure Site := do
  let devices ← s.document files.devices
  let networks ← s.document? files.networks
  let groups ← s.document? files.groups
  let zones ← s.document? files.zones
  let portForwards ← s.document? files.portForwards
  let settings ← s.document? files.settings
  return .ofDocuments { devices, networks, groups, zones, portForwards, settings }

/-- Whether a mode means color here. -/
def hasColor (s : Surroundings) : ColorMode → Bool
  | .always => true
  | .never => false
  | .auto => s.terminal && (s.environment.lookup "NO_COLOR").isNone

end Surroundings

/-! ## Outcomes -/

/-- What comes of a request. -/
structure Outcome where
  /-- What is printed. -/
  output : String
  failure : Option Failure
  /-- The path of a file to write, and what to write into it. -/
  file : Option (String × String)
deriving Repr, DecidableEq

namespace Outcome

/-- A success that prints something. -/
def ofOutput (output : String) : Outcome := ⟨output, none, none⟩

/-- A failure that prints nothing. -/
def ofFailure (failure : Failure) : Outcome := ⟨"", some failure, none⟩

/-- The outcome of a run that can fail before there is one. -/
def ofResult : Except Failure Outcome → Outcome
  | .ok outcome => outcome
  | .error failure => .ofFailure failure

/-- The outcome when the file could not be written. -/
def unwritten (o : Outcome) : Outcome := { o with failure := some .configUnusable, file := none }

/-- The number with which the program ends. -/
def exitCode (o : Outcome) : UInt32 := o.failure.elim 0 Failure.exitCode

end Outcome

/-! ## Requests about a site -/

/-- How results are shown. -/
structure Presentation where
  format : OutputFormat
  color : Bool
  quiet : Bool
deriving Repr, DecidableEq

namespace Presentation

/-- What is printed of a result. -/
def print (p : Presentation) (v : View) : String := printed p.quiet (v.text p.format)

/-- The format on the command line, or else in the configuration. -/
def format? (general : GeneralOptions) (config : Config) : Except Failure OutputFormat :=
  match general.output.or (OutputFormat.parse? config.defaults.output) with
  | some format => .ok format
  | none => .error <| .invalidValue "defaults.output"
      ("unknown output format '" ++ config.defaults.output ++ "'")

/-- The color mode on the command line, or else in the configuration. -/
def color? (general : GeneralOptions) (config : Config) : Except Failure ColorMode :=
  match general.color.or (ColorMode.parse? config.defaults.color) with
  | some mode => .ok mode
  | none => .error <| .invalidValue "defaults.color"
      ("unknown color mode '" ++ config.defaults.color ++ "'")

/-- How results are shown here. -/
def of (s : Surroundings) (general : GeneralOptions) (config : Config) :
    Except Failure Presentation := do
  let format ← format? general config
  let mode ← color? general config
  return ⟨format, s.hasColor mode, general.quiet⟩

end Presentation

/-- The settings of the configuration under those of the command line. -/
def auditSettings (config : Config) (minSeverity : Option String) (skip : List String)
    (failOn : Option String) : Except Failure AuditSettings := do
  let base ← config.audit.settings.mapError .invalidConfig
  let own : Except InvalidSetting AuditSettings := do
    let minSeverity ← minSeverity.mapM Severity.parse
    let failOn ← failOn.mapM Severity.parse
    let skipped ← skip.mapM Check.parse
    return { minSeverity := minSeverity.or base.minSeverity
             disabled := AuditSettings.inRunOrder (base.disabled ++ skipped)
             failOn := failOn.or base.failOn }
  own.mapError .ofSetting

/-- What an audit prints of its report, and whether it fails on the findings in it. -/
def auditReport (time : String) (p : Presentation) (settings : AuditSettings) (report : Report) :
    Outcome :=
  let failure := (settings.failOn.filter report.hasAtLeast).map fun threshold =>
    Failure.findings (report.countAtLeast threshold) threshold
  ⟨p.print (report.view p.color time), failure, none⟩

/-- An audit of a site. Where its points cannot be added up, nothing is printed. -/
def audit (time : String) (p : Presentation) (settings : AuditSettings) (site : Site) : Outcome :=
  match Report.ofFindings? (Audit.run site settings) with
  | some report => auditReport time p settings report
  | none => .ofFailure .pointsOverflow

/-- The network of a site with an id or a name. -/
def network (site : Site) (key : String) : Except Failure Network :=
  (site.findNetwork? key).elim (.error (.networkNotFound key)) .ok

/-- A trace on a site. -/
def trace (p : Presentation) (site : Site) (source destination : String)
    (filter : TrafficFilter) (newOnly : Bool) : Except Failure Outcome := do
  let query : TraceQuery :=
    ⟨← network site source, ← network site destination, filter, newOnly⟩
  return .ofOutput (p.print (query.view (query.verdict site)))

/-! ## Requests about the configuration -/

/-- A configuration file with the defaults is written. One that is there stays as it is. -/
def initConfig (s : Surroundings) (path : String) (force : Bool) : Outcome :=
  if s.isThere path && !force then
    .ofFailure (.invalidValue "config" (path ++ " already exists (use --force to overwrite)"))
  else { Outcome.ofOutput "" with file := some (path, Config.default.fileText) }

/-- The configuration is shown, without blanks at its end. -/
def showConfig (s : Surroundings) (path : String) (general : GeneralOptions) :
    Except Failure Outcome := do
  let config ← s.config path
  let text := config.view.text (general.output.getD .table)
  return .ofOutput (printed general.quiet (String.ofList (Text.trimEnd text.toList)))

/-! ## All requests -/

/-- A request about a site, with everything that comes before the site itself. -/
def onSite (s : Surroundings) (general : GeneralOptions)
    (ask : Config → Presentation → Except Failure Outcome) : Except Failure Outcome := do
  let config ← s.config (general.config.getD s.configPath)
  ask config (← Presentation.of s general config)

/-- A request is carried out. -/
def carryOut (s : Surroundings) (general : GeneralOptions) : Request → Except Failure Outcome
  | .audit files minSeverity skip failOn => onSite s general fun config p => do
    let settings ← auditSettings config minSeverity skip failOn
    return audit s.time p settings (← s.site files)
  | .networks files => onSite s general fun _ p => do
    return .ofOutput (p.print (Network.viewOf (← s.site files).networks))
  | .rules files => onSite s general fun _ p => do
    return .ofOutput (p.print (Rule.viewOf (← s.site files).rules))
  | .trace files source destination protocol port newOnly => onSite s general fun _ p => do
    trace p (← s.site files) source destination ⟨protocol.map Protocol.parse, port⟩ newOnly
  | .initConfig force => .ok (initConfig s (general.config.getD s.configPath) force)
  | .showConfig => showConfig s (general.config.getD s.configPath) general
  | .configPath =>
    .ok (.ofOutput (printed general.quiet (general.config.getD s.configPath)))
  | .completions _ => .ok (.ofOutput "")

/-- The paths at which a request looks. -/
def Request.paths : Request → List String
  | .audit files _ _ _ | .networks files | .rules files | .trace files _ _ _ _ _ =>
    files.devices :: [files.networks, files.groups, files.zones, files.portForwards,
      files.settings].filterMap id
  | .initConfig _ | .showConfig | .configPath | .completions _ => []

/-- The paths at which a command line makes the program look. -/
def pathsOf (s : Surroundings) (arguments : List String) : List String :=
  match Invocation.ofArguments s.environment arguments with
  | .ok ⟨general, request⟩ => general.config.getD s.configPath :: request.paths
  | .error _ => []

/-- A command line is carried out. -/
def run (s : Surroundings) (arguments : List String) : Outcome :=
  match Invocation.ofArguments s.environment arguments with
  | .error stop => .ofFailure (.stopped stop)
  | .ok invocation => .ofResult (carryOut s invocation.general invocation.request)

/-! ## Laws -/

/-- An audit with a report fails exactly if one of its findings reaches the threshold. -/
theorem audit_fails_iff {time : String} {p : Presentation} {settings : AuditSettings}
    {report : Report} :
    (auditReport time p settings report).failure.isSome = true ↔
      ∃ threshold, settings.failOn = some threshold ∧
        ∃ f ∈ report.findings, f.severity.atLeast threshold = true := by
  cases h : settings.failOn <;> simp [auditReport, h, Option.filter, Report.hasAtLeast]

end SiteAudit.CommandLine

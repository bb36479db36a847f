import SiteAudit.CommandLine.Reading
import SiteAudit.Display.Color
import SiteAudit.Display.Format

/-!
# Invocations

What can be asked of the program, and the grammar in which it is asked. The
general options can be given to every command.

## Main results

* `innermost_of_ofArguments` — what can be asked stands below all other commands.
-/

namespace SiteAudit.CommandLine

/-! ## What can be asked -/

/-- The files that hold the documents of a site. -/
structure SiteFiles where
  devices : String
  networks : Option String
  groups : Option String
  zones : Option String
  portForwards : Option String
  settings : Option String
deriving Repr, DecidableEq

/-- What can be asked of the program. -/
inductive Request where
  | audit (files : SiteFiles) (minSeverity : Option String) (skip : List String)
      (failOn : Option String)
  | networks (files : SiteFiles)
  | rules (files : SiteFiles)
  | trace (files : SiteFiles) (source destination : String) (protocol port : Option String)
      (newOnly : Bool)
  | initConfig (force : Bool)
  | showConfig
  | configPath
  | completions (shell : String)
deriving Repr, DecidableEq

/-- The general options. -/
structure GeneralOptions where
  config : Option String
  output : Option OutputFormat
  color : Option ColorMode
  quiet : Bool
deriving Repr, DecidableEq

/-- A request with the general options. -/
structure Invocation where
  general : GeneralOptions
  request : Request
deriving Repr, DecidableEq

/-! ## The grammar -/

/-- An option that may be left out. -/
def option (long : String) (role : OptionRole) : OptionSpec := ⟨long, none, role, false, none⟩

/-- An option that has to be given. -/
def requiredOption (long : String) (short : Option Char) (accepts : Accepts) : OptionSpec :=
  ⟨long, short, .single accepts, true, none⟩

/-- The options of every command. -/
def generalOptions : List OptionSpec :=
  [⟨"config", none, .single .nonEmpty, false, some "UNIAUDIT_CONFIG"⟩,
    ⟨"output", some 'o', .single (.oneOf (OutputFormat.all.map OutputFormat.id)), false,
      some "UNIAUDIT_OUTPUT"⟩,
    option "color" (.single (.oneOf (ColorMode.all.map ColorMode.id))),
    ⟨"verbose", some 'v', .counter, false, none⟩,
    ⟨"quiet", some 'q', .switch, false, none⟩,
    ⟨"help", some 'h', .question, false, none⟩,
    ⟨"version", some 'V', .question, false, none⟩]

/-- The options that name the documents of a site. -/
def siteOptions : List OptionSpec :=
  requiredOption "devices" (some 'd') .nonEmpty ::
    ["networks", "groups", "zones", "port-forwards", "settings"].map fun name =>
      option name (.single .nonEmpty)

/-- The options of an audit alone. -/
def auditOptions : List OptionSpec :=
  [option "min-severity" (.single .anyText), option "skip" (.several .anyText),
    option "fail-on" (.single .anyText)]

/-- The options of a trace alone. -/
def traceOptions : List OptionSpec :=
  [requiredOption "from" none .anyText, requiredOption "to" none .anyText,
    option "protocol" (.single .anyText), option "port" (.single .anyText),
    option "new" .switch]

/-- A command with its own options and the general ones. -/
def command (name : String) (aliases : List String) (options : List OptionSpec) : CommandSpec :=
  ⟨name, aliases, options ++ generalOptions, none, []⟩

/-- The shells for which there are completions. -/
def shells : List String := ["bash", "elvish", "fish", "powershell", "zsh"]

/-- The program and all its commands. -/
def program : CommandSpec :=
  { command "uniaudit" [] [] with
    commands :=
      [command "audit" ["a"] (siteOptions ++ auditOptions),
        command "networks" ["net", "n"] siteOptions,
        command "rules" ["fw"] siteOptions,
        command "trace" [] (siteOptions ++ traceOptions),
        { command "config" [] [] with
          commands :=
            [command "init" [] [option "force" .switch], command "show" [] [],
              command "path" [] []] },
        { command "completions" [] [] with argument := some ("shell", .oneOf shells) }] }

/-! ## Reading -/

/-- The files of a site that words name. -/
def SiteFiles.ofWords? (w : Words) : Option SiteFiles := do
  let devices ← w.text? "devices"
  return ⟨devices, w.text? "networks", w.text? "groups", w.text? "zones",
    w.text? "port-forwards", w.text? "settings"⟩

/-- The request that words make. -/
def Request.ofWords? (w : Words) : Option Request :=
  match w.commands.drop 1 with
  | ["audit"] => do
    return .audit (← SiteFiles.ofWords? w) (w.text? "min-severity") (w.texts "skip")
      (w.text? "fail-on")
  | ["networks"] => (SiteFiles.ofWords? w).map .networks
  | ["rules"] => (SiteFiles.ofWords? w).map .rules
  | ["trace"] => do
    return .trace (← SiteFiles.ofWords? w) (← w.text? "from") (← w.text? "to")
      (w.text? "protocol") (w.text? "port") (w.has "new")
  | ["config", "init"] => some (.initConfig (w.has "force"))
  | ["config", "show"] => some .showConfig
  | ["config", "path"] => some .configPath
  | ["completions"] => (w.text? "shell").map .completions
  | _ => none

/-- The general options that words give. -/
def GeneralOptions.ofWords (w : Words) : GeneralOptions where
  config := w.text? "config"
  output := (w.text? "output").bind OutputFormat.ofId?
  color := (w.text? "color").bind ColorMode.ofId?
  quiet := w.has "quiet"

/-- The invocation of a command line, with the environment variables there are. -/
def Invocation.ofArguments (environment : List (String × String)) (arguments : List String) :
    Except Stop Invocation := do
  let w ← read program environment arguments
  match Request.ofWords? w with
  | some request => return ⟨.ofWords w, request⟩
  | none => .error .refused

/-! ## Laws -/

/-- Only a command without commands below it can be asked for. -/
theorem innermost_of_ofArguments {environment : List (String × String)} {arguments : List String}
    {invocation : Invocation} (h : Invocation.ofArguments environment arguments = .ok invocation) :
    ∃ p, (Progress.start program).readAll arguments = .ok p ∧ p.level.command.commands = [] := by
  obtain ⟨w, hread, _⟩ := exists_of_bind_eq_ok h
  exact innermost_of_read hread

/-- A command line without words names the program itself, which has commands. -/
example : Invocation.ofArguments [] [] = .error .refused := by rfl

end SiteAudit.CommandLine

import SiteAudit.CommandLine.Clock
import SiteAudit.CommandLine.Run
import Std.Time.DateTime.Timestamp

/-!
# The program

Looks at the files that the command line names, lets the request be carried
out on what was found, and prints the outcome.
-/

namespace SiteAudit.Main

open SiteAudit.CommandLine

/-- The environment variables that count. -/
def variableNames : List String :=
  ["HOME", "XDG_CONFIG_HOME", "NO_COLOR", "UNIAUDIT_CONFIG", "UNIAUDIT_OUTPUT",
    "UNIAUDIT_DEFAULTS", "UNIAUDIT_AUDIT", "UNIAUDIT_DEFAULTS__OUTPUT",
    "UNIAUDIT_DEFAULTS__COLOR", "UNIAUDIT_AUDIT__MIN_SEVERITY",
    "UNIAUDIT_AUDIT__DISABLED_CHECKS", "UNIAUDIT_AUDIT__FAIL_ON"]

/-- What is found at a path. -/
def look (path : String) : IO Reading := do
  try
    return .text (← IO.FS.readFile path)
  catch
    | .noFileOrDirectory .. => return .missing
    | .inappropriateType .. => return .noFile
    | _ => return .unreadable

/-- Whether there is anything at a path. -/
def isThere (path : String) : IO Bool := do
  try
    let _ ← IO.FS.realPath path
    return true
  catch _ => return false

/-- The time as it is written into results. -/
def now : IO String := do
  let moment := (← Std.Time.Timestamp.now).toNanosecondsSinceUnixEpoch.val.toNat
  return timeText (moment / 1000000000) (moment % 1000000000)

/-- The directory part of a path. -/
def directoryOf (path : String) : String :=
  let names := (Text.pieces '/' path.toList).map String.ofList
  if names.length < 2 then "." else Text.joinWith "/" names.dropLast

/-- A file is written, with the directories that lead to it; whether that worked. -/
def write (path content : String) : IO Bool := do
  try
    IO.FS.createDirAll (directoryOf path)
    IO.FS.writeFile path content
    return true
  catch _ => return false

end SiteAudit.Main

open SiteAudit.CommandLine in
/-- Carries out the command line and ends with the number of the outcome. -/
def main (arguments : List String) : IO UInt32 := do
  let environment ← SiteAudit.Main.variableNames.filterMapM fun name => do
    return (← IO.getEnv name).map (name, ·)
  let output ← IO.getStdout
  let terminal ← output.isTty
  let time ← SiteAudit.Main.now
  let nothing : Surroundings := ⟨fun _ => .missing, fun _ => false, environment, terminal, time⟩
  let found ← (pathsOf nothing arguments).mapM fun path => do
    return (path, ← SiteAudit.Main.look path, ← SiteAudit.Main.isThere path)
  let surroundings : Surroundings :=
    { nothing with
      read := fun path => (found.lookup path).elim .missing Prod.fst
      isThere := fun path => (found.lookup path).elim false Prod.snd }
  let outcome := run surroundings arguments
  output.putStr outcome.output
  let outcome ← match outcome.file with
    | some (path, content) => do
      if ← SiteAudit.Main.write path content then pure outcome else pure outcome.unwritten
    | none => pure outcome
  if let some failure := outcome.failure then
    (← IO.getStderr).putStrLn failure.message
  return outcome.exitCode

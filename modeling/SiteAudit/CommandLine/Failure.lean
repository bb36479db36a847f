import SiteAudit.CommandLine.Reading
import SiteAudit.Config.Basic
import SiteAudit.Numeral

/-!
# Failures

Why a run does not succeed, in words and as a number for other programs.
-/

namespace SiteAudit.CommandLine

/-- Why a run does not succeed. -/
inductive Failure where
  /-- The command line is not carried out. -/
  | stopped (stop : Stop)
  | fileNotFound (path : String)
  | readFailed (path : String)
  | invalidDocument (path : String)
  | networkNotFound (key : String)
  /-- A value is none of those that a field may have. -/
  | invalidValue (field reason : String)
  /-- A setting of the configuration is invalid. -/
  | invalidConfig (reason : Config.InvalidField)
  /-- The configuration cannot be read or written. -/
  | configUnusable
  /-- The audit has findings that count as a failure. -/
  | findings (count : Nat) (threshold : Severity)
  /-- The points of the findings do not fit in 32 bits, and the program stops in their sum. -/
  | pointsOverflow
deriving Repr, DecidableEq

namespace Failure

/-- The failure for an invalid setting on the command line. -/
def ofSetting (e : InvalidSetting) : Failure :=
  .invalidValue e.setting ("'" ++ e.value ++ "' (expected one of: " ++ e.expected ++ ")")

/-- The number with which the program ends. -/
def exitCode : Failure → UInt32
  | stopped .question => 0
  | stopped .refused => 2
  | fileNotFound _ => 4
  | networkNotFound _ => 4
  | invalidValue .. => 2
  | invalidConfig _ => 2
  | findings .. => 10
  | pointsOverflow => 101
  | readFailed _ => 1
  | invalidDocument _ => 1
  | configUnusable => 1

/-- What is wrong, in one sentence. -/
def message : Failure → String
  | stopped .question => "See the documentation of the program"
  | stopped .refused => "The command line is not understood"
  | fileNotFound path => "Input file not found: " ++ path
  | readFailed path => "Could not read " ++ path
  | invalidDocument path => "Invalid JSON in " ++ path
  | networkNotFound key => "Network '" ++ key ++ "' not found"
  | invalidValue field reason => "Invalid value for " ++ field ++ ": " ++ reason
  | invalidConfig reason => reason.message
  | configUnusable => "The configuration cannot be read or written"
  | findings count threshold =>
    Numeral.decimal count ++ " finding(s) at or above " ++ threshold.name ++ " severity"
  | pointsOverflow => "attempt to add with overflow"

end Failure

end SiteAudit.CommandLine

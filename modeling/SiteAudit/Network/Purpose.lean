import SiteAudit.Text.Ascii

/-!
# Purposes of networks

What a network is for, as far as it can be told. Trusted purposes are those
of networks for everyday clients; sensitive ones are those of networks that
should be kept apart from all others.
-/

namespace SiteAudit

/-- The role of a network. -/
inductive Purpose where
  | home
  | guest
  | iot
  | security
  | management
  | corporate
  | server
  | unknown
deriving Repr, DecidableEq

namespace Purpose

/-- Every purpose. -/
def all : List Purpose :=
  [home, guest, iot, security, management, corporate, server, unknown]

/-- The name of a purpose. -/
def name : Purpose → String
  | home => "Home"
  | guest => "Guest"
  | iot => "IoT"
  | security => "Security"
  | management => "Management"
  | corporate => "Corporate"
  | server => "Server"
  | unknown => "Unknown"

/-- The purpose with exactly this name. -/
def ofName? (name : String) : Option Purpose := all.find? (·.name == name)

/-- The purpose with this name up to ASCII letter case. -/
def parse? (text : String) : Option Purpose := all.find? fun p => Text.sameAsciiFold p.name text

/-- Whether networks of this purpose hold trusted clients of general use. -/
def isTrusted (p : Purpose) : Bool := p == home || p == corporate || p == server

/-- Whether networks of this purpose are expected behind isolation. -/
def isSensitive (p : Purpose) : Bool := p == management || p == security

theorem mem_all (p : Purpose) : p ∈ all := by cases p <;> decide

theorem ofName_name (p : Purpose) : ofName? p.name = some p := by cases p <;> decide

/-- No purpose is both trusted and sensitive. -/
theorem isSensitive_of_isTrusted {p : Purpose} (h : p.isTrusted = true) :
    p.isSensitive = false := by
  cases p <;> simp_all [isTrusted, isSensitive]

end Purpose

end SiteAudit

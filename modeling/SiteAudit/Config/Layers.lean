import SiteAudit.Config.Basic
import SiteAudit.Config.Variables

/-!
# Layers of configuration

What a user has set comes from a file and from environment variables, over
the defaults. The variables are one layer: they are merged with each other
before they come over the file. Sections are merged field by field; of other
values the last one counts. The result has to have the types that a configuration has;
fields that no configuration has are ignored.

A section may also be given as the list of its fields.

## Main results

* `foldl_merge_table` — sections over sections are merged into one.
* `ofLayers_append_empty` — a layer that sets nothing may be left out.
-/

namespace SiteAudit.Config

open Toml (Value)

/-! ## Merging -/

/-- The fields of a section. A date has fields too, but none of a configuration. -/
def fields? : Value → Option (List (String × Value))
  | .table entries => some entries
  | .datetime _ => some []
  | _ => none

mutual

/-- A value with another one over it. -/
def merge (lower upper : Value) : Value :=
  match upper with
  | .table entries =>
    match fields? lower with
    | some fields => .table (mergeFields fields entries)
    | none => .table entries
  | .datetime _ =>
    match fields? lower with
    | some fields => .table fields
    | none => upper
  | _ => upper

/-- Fields with others over them. -/
def mergeFields (lower : List (String × Value)) : List (String × Value) → List (String × Value)
  | [] => lower
  | (name, v) :: rest =>
    let v := match Toml.lookup name lower with
      | some old => merge old v
      | none => v
    mergeFields (Toml.setEntry name v lower) rest

end

/-! ## Reading a configuration -/

/-- A text. -/
def text? : Value → Option String
  | .string s => some s
  | _ => none

/-- A list of texts. -/
def texts? : Value → Option (List String)
  | .array items => items.mapM text?
  | _ => none

/-- A field of a section, if it is there; its type has to be right. -/
def field? (read : Value → Option α) (name : String) (entries : List (String × Value)) :
    Option (Option α) :=
  match Toml.lookup name entries with
  | some v => (read v).map some
  | none => some none

/-- The field at the head of a list, if there is one; its type has to be right. -/
def head? (read : Value → Option α) (items : List Value) : Option (Option α) :=
  match items with
  | v :: _ => (read v).map some
  | [] => some none

/-- How results are shown, as far as a section says it. -/
def defaults? (v : Value) : Option Defaults := do
  let (output, color) ← match v with
    | .array items => do
      pure (← head? text? items, ← head? text? (items.drop 1))
    | v => do
      let entries ← fields? v
      pure (← field? text? "output" entries, ← field? text? "color" entries)
  some ⟨output.getD default.defaults.output, color.getD default.defaults.color⟩

/-- The settings of the audit that a section holds. A list has to have all three. -/
def audit? (v : Value) : Option AuditSection :=
  match v with
  | .array (minSeverity :: disabledChecks :: failOn :: _) => do
    some ⟨some (← text? minSeverity), ← texts? disabledChecks, some (← text? failOn)⟩
  | v => do
    let entries ← fields? v
    some ⟨← field? text? "min_severity" entries,
      (← field? texts? "disabled_checks" entries).getD [], ← field? text? "fail_on" entries⟩

/-- The configuration that a table of sections holds. -/
def ofSections? (entries : List (String × Value)) : Option Config := do
  let defaults ← field? defaults? "defaults" entries
  let audit ← field? audit? "audit" entries
  some ⟨defaults.getD default.defaults, audit.getD default.audit⟩

/-- The sections that are there from the start, so that everything set is merged into them. -/
def sections : List (String × Value) := [("defaults", .table []), ("audit", .table [])]

/-- The configuration of layers, from the lowest to the highest. -/
def ofLayers? (layers : List Value) : Option Config :=
  (fields? (layers.foldl merge (.table sections))).bind ofSections?

/-- The layer that environment variables make, each over those before it by name. -/
def environmentLayer (environment : List (String × String)) : Value :=
  let inOrder := environment.mergeSort fun a b => a.1 ≤ b.1
  (inOrder.filterMap Variable.setting?).foldl merge (.table [])

/-- The configuration of the text of a file, if there is one, under environment variables. -/
def load? (file : Option String) (environment : List (String × String)) : Option Config := do
  let file ← match file with
    | some document => (Toml.parse? document).map Value.table
    | none => some (.table [])
  ofLayers? [file, environmentLayer environment]

/-! ## Laws -/

/-- Sections over sections are a section, in which they are merged one after the other. -/
theorem foldl_merge_table (sections : List (List (String × Value)))
    (base : List (String × Value)) :
    (sections.map Value.table).foldl merge (.table base) =
      .table (sections.foldl mergeFields base) := by
  induction sections generalizing base with
  | nil => rfl
  | cons fields rest ih =>
      have hmerge : merge (.table base) (.table fields) = .table (mergeFields base fields) := by
        simp [merge, fields?]
      rw [List.map_cons, List.foldl_cons, hmerge, ih, List.foldl_cons]

/-- A layer that sets nothing may be left out. -/
theorem ofLayers_append_empty (below above : List (List (String × Value))) :
    ofLayers? ((below ++ [] :: above).map Value.table) =
      ofLayers? ((below ++ above).map Value.table) := by
  have hempty : ∀ fields, mergeFields fields [] = fields := fun fields => by rw [mergeFields]
  rw [ofLayers?, ofLayers?, foldl_merge_table, foldl_merge_table, List.foldl_append,
    List.foldl_append, List.foldl_cons, hempty]

/-- Without any layer there are the defaults. -/
example : ofLayers? [] = some default := by decide

end SiteAudit.Config

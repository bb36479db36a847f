import SiteAudit.CommandLine.Run

/-!
# Runs on a disk in memory

A disk is a set of files below one directory, in which the program runs.
Relative paths lead from there through directories; nothing is known of what
lies outside, except that the way up leads through directories.

Directories are those in which files lie. They come with a file that is
written into them.

## Main results

* `file_put_self`, `file_put_of_ne` — a file that has been written is found
  at its place, and all others stay as they were.
-/

namespace SiteAudit.CommandLine

/-- The files below a directory, each with the names that lead to it. -/
structure Disk where
  files : List (List String × String)
deriving Repr, DecidableEq

/-- Where a path leads. -/
inductive Location where
  /-- Along these names, from the directory of the program. -/
  | inside (names : List String)
  /-- To a directory outside. -/
  | outside
  /-- Through something that is not there. -/
  | lost
  /-- Through a file, as if it were a directory. -/
  | blocked
deriving Repr, DecidableEq

namespace Disk

/-- The file at a place. -/
def file? (d : Disk) (names : List String) : Option String := d.files.lookup names

/-- Whether there is a directory at a place. -/
def isDirectory (d : Disk) (names : List String) : Bool :=
  names.isEmpty || d.files.any fun (path, _) => names.isPrefixOf path && names != path

/-- One step of a path. It has to start from a directory. -/
def step (d : Disk) (l : Location) (name : String) : Location :=
  match l with
  | .inside names =>
    if (d.file? names).isSome then .blocked
    else if !d.isDirectory names then .lost
    else if name == "" || name == "." then .inside names
    else if name == ".." then
      if names.isEmpty then .outside else .inside names.dropLast
    else .inside (names ++ [name])
  | .outside => if ["", ".", ".."].contains name then .outside else .lost
  | l => l

/-- The names of a path. -/
def namesOf (path : String) : List String := (Text.pieces '/' path.toList).map String.ofList

/-- Where a path leads. -/
def locate (d : Disk) (path : String) : Location :=
  match namesOf path with
  | "" :: name :: names => (name :: names).foldl d.step .outside
  | names => names.foldl d.step (.inside [])

/-- What is found at a path. -/
def read (d : Disk) (path : String) : Reading :=
  match d.locate path with
  | .inside names =>
    match d.file? names with
    | some content => .text content
    | none => if d.isDirectory names then .noFile else .missing
  | .lost => .missing
  | .outside | .blocked => .noFile

/-- Whether there is anything at a path. -/
def isThere (d : Disk) (path : String) : Bool :=
  match d.locate path with
  | .inside names => (d.file? names).isSome || d.isDirectory names
  | .outside => true
  | .lost | .blocked => false

/-- The names of a directory that may have to be made, if nothing is in the way. -/
def directory? (d : Disk) (names : List String) : Option (List String) :=
  names.foldlM (fun reached name =>
    if (d.file? reached).isSome then none
    else if name == "" || name == "." then some reached
    else if name == ".." then if reached.isEmpty then none else some reached.dropLast
    else some (reached ++ [name])) []

/-- The disk with a file at a place, instead of one that may have been there. -/
def put (d : Disk) (names : List String) (content : String) : Disk :=
  ⟨(names, content) :: d.files.filter (·.1 != names)⟩

/-- The disk after a file has been written, with the directories that lead to it. -/
def write? (d : Disk) (path content : String) : Option Disk :=
  let names := namesOf path
  let name := names.getLast?.getD ""
  if path.startsWith "/" || ["", ".", ".."].contains name then none
  else do
    let reached ← d.directory? names.dropLast
    if (d.file? reached).isSome || d.isDirectory (reached ++ [name]) then none
    else some (d.put (reached ++ [name]) content)

end Disk

/-- What the program sees on a disk, away from a terminal. -/
def Surroundings.ofDisk (d : Disk) (environment : List (String × String)) (time : String) :
    Surroundings :=
  ⟨d.read, d.isThere, environment, false, time⟩

/-- A command line is carried out on a disk; with the disk afterwards. -/
def runOn (d : Disk) (environment : List (String × String)) (time : String)
    (arguments : List String) : Outcome × Disk :=
  let outcome := run (.ofDisk d environment time) arguments
  match outcome.file with
  | none => (outcome, d)
  | some (path, content) =>
    match d.write? path content with
    | some d => (outcome, d)
    | none => (outcome.unwritten, d)

/-! ## Laws -/

/-- A file that has been written is found at its place. -/
theorem Disk.file_put_self (d : Disk) (names : List String) (content : String) :
    (d.put names content).file? names = some content := by
  simp [file?, put]

/-- Writing a file leaves all others alone. -/
theorem Disk.file_put_of_ne {names other : List String} (h : other ≠ names) (d : Disk)
    (content : String) : (d.put names content).file? other = d.file? other := by
  have hne : (other == names) = false := beq_false_of_ne h
  obtain ⟨files⟩ := d
  simp only [file?, put, List.lookup_cons, hne]
  induction files with
  | nil => rfl
  | cons f files ih =>
    obtain ⟨path, text⟩ := f
    by_cases hp : path = names
    · have hop : (other == path) = false := hp ▸ hne
      simp [hp, List.lookup_cons, hne, ih]
    · simp [hp, List.lookup_cons, ih]

end SiteAudit.CommandLine

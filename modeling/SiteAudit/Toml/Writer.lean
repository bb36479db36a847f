import SiteAudit.Numeral
import SiteAudit.Text.Pieces

/-!
# Writing TOML

Texts and lists of texts as values. A text is written in the first way that
leaves it as it is: in quotes, in apostrophes, over several lines in three
quotes, or over several lines in three apostrophes. Only if none of these
will do are characters escaped.

## Main results

* `quoting_of_simple` — texts without anything special stand in quotes.
-/

namespace SiteAudit.Toml.Writer

/-! ## Ways to write a text -/

/-- Characters that can only be written as an escape. -/
def needsCode (c : Char) : Bool :=
  (c.toNat < 0x20 && c != '\t' && c != '\n') || c.toNat == 0x7F

/-- The length of the longest run of a character, after a run that has begun. -/
def longestRun (c : Char) : Nat → List Char → Nat
  | run, [] => run
  | run, d :: rest =>
    if d = c then longestRun c (run + 1) rest else max run (longestRun c 0 rest)

/-- How a text is quoted: by which character, and over several lines or not. -/
structure Quoting where
  quote : Char
  lines : Bool
deriving Repr, DecidableEq

/-- Whether a text can stand in such quotes as it is. -/
def Quoting.fits (q : Quoting) (s : List Char) : Bool :=
  !s.any needsCode && (q.lines || !s.contains '\n') &&
    (q.quote != '"' || !s.contains '\\') &&
    longestRun q.quote 0 s ≤ (if q.lines then 2 else 0)

/-- The ways to quote, from the first choice to the last. -/
def choices : List Quoting := [⟨'"', false⟩, ⟨'\'', false⟩, ⟨'"', true⟩, ⟨'\'', true⟩]

/-- How a text is quoted. -/
def quoting (s : List Char) : Quoting :=
  (choices.find? (·.fits s)).getD ⟨'"', s.contains '\n'⟩

/-! ## Text -/

/-- The letters that stand for characters after a backslash. -/
def letters : List (Char × Char) :=
  [('\x08', 'b'), ('\t', 't'), ('\n', 'n'), ('\x0c', 'f'), ('\r', 'r'), ('\\', '\\')]

/-- A character as an escape. -/
def escape (c : Char) : List Char :=
  match letters.lookup c with
  | some letter => ['\\', letter]
  | none => ['\\', 'u'] ++ ((Numeral.write 16 c.toNat).map Char.toUpper).leftpad 4 '0'

/--
The characters between quotes. Over several lines, line feeds stay and only every third quote in a
row is escaped; `run` counts the quotes before.
-/
def between (lines : Bool) (run : Nat) : List Char → List Char
  | [] => []
  | c :: rest =>
    if c = '"' then
      if run < (if lines then 2 else 0) then c :: between lines (run + 1) rest
      else '\\' :: c :: between lines 0 rest
    else if needsCode c || c == '\t' || c == '\\' || (c == '\n' && !lines) then
      escape c ++ between lines 0 rest
    else c :: between lines 0 rest

/-- A text as a value. -/
def text (s : String) : String :=
  let q := quoting s.toList
  let mark := String.ofList (List.replicate (if q.lines then 3 else 1) q.quote)
  let start := if q.lines && s.toList.contains '\n' then mark ++ "\n" else mark
  let body := if q.quote = '"' then String.ofList (between q.lines 0 s.toList) else s
  start ++ body ++ mark

/-- A list of texts as a value: from two on, each on a line of its own. -/
def texts (list : List String) : String :=
  match list with
  | [] => "[]"
  | [s] => "[" ++ text s ++ "]"
  | list =>
    "[\n" ++ Text.joinWith "" (list.map fun s => "    " ++ text s ++ ",\n") ++ "]"

/-! ## Laws -/

theorem longestRun_of_not_mem {c : Char} {s : List Char} (h : c ∉ s) : longestRun c 0 s = 0 := by
  induction s with
  | nil => rfl
  | cons d rest ih =>
    simp only [List.mem_cons, not_or] at h
    rw [longestRun, if_neg (fun hd => h.1 hd.symm), ih h.2, Nat.max_self]

/-- Texts without anything special stand in quotes. -/
theorem quoting_of_simple {s : List Char}
    (h : ∀ c ∈ s, needsCode c = false ∧ c ≠ '\n' ∧ c ≠ '\\' ∧ c ≠ '"') :
    quoting s = ⟨'"', false⟩ := by
  have hcode : s.any needsCode = false := List.any_eq_false.2 fun c hc => by simp [(h c hc).1]
  have hnot : ∀ d, (d = '\n' ∨ d = '\\' ∨ d = '"') → d ∉ s := fun d hd hs => by
    have := h d hs
    rcases hd with rfl | rfl | rfl <;> simp_all
  have hfits : Quoting.fits ⟨'"', false⟩ s = true := by
    simp [Quoting.fits, hcode, hnot '\n' (by simp), hnot '\\' (by simp),
      longestRun_of_not_mem (hnot '"' (by simp))]
  simp [quoting, choices, hfits]

end SiteAudit.Toml.Writer

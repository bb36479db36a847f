import SiteAudit.CommandLine.Grammar
import SiteAudit.Text.Pieces

/-!
# Reading command lines

Words are read from left to right, and each belongs to the command named
last. A value given with a word of its own is judged late: when the next
option comes, or at the end, where the innermost command is judged first. The
first thing that is wrong, or the first question about the program, decides.

An environment variable stands in for an option at every command that does
not have it, so that its text has to be right there.

## Main results

* `innermost_of_read` — only a command without commands below it is carried out.
-/

namespace SiteAudit.CommandLine

/-- Why a command line is not carried out. -/
inductive Stop where
  /-- It asks for help or for the version. -/
  | question
  /-- It is not in the grammar. -/
  | refused
deriving Repr, DecidableEq

/-- The option whose value has a word of its own. -/
structure Waiting where
  option : OptionSpec
  /-- The word, once it is there. -/
  word : Option String

/-- A command that has been named, with what has been given to it. -/
structure Level where
  command : CommandSpec
  /-- Names of options and of the argument with their texts; switches have none. -/
  given : List (String × String)
  waiting : Option Waiting

namespace Level

/-- A command to which nothing has been given. -/
def start (command : CommandSpec) : Level := ⟨command, [], none⟩

/-- Whether something has been given under a name. -/
def has (l : Level) (name : String) : Bool := l.given.any (·.1 == name)

/-- A text given under a name. -/
def put (l : Level) (name text : String) : Level := { l with given := l.given ++ [(name, text)] }

/-- An option given with a text; without a value the text is empty. -/
def give (l : Level) (option : OptionSpec) (text : String) : Except Stop Level :=
  if !option.isRepeatable && l.has option.long then .error .refused
  else if option.accepts?.all (·.admits text) then .ok (l.put option.long text)
  else .error .refused

/-- The option that waits is judged. -/
def settle (l : Level) : Except Stop Level :=
  match l.waiting with
  | none => .ok l
  | some ⟨option, some word⟩ => { l with waiting := none }.give option word
  | some ⟨_, none⟩ => .error .refused

/-- Whether the next word is the value of an option. -/
def wantsValue (l : Level) : Bool := l.waiting.any (·.word.isNone)

/-- An option without a value. -/
def flag (l : Level) (option : OptionSpec) : Except Stop Level := do
  let l ← l.settle
  match option.role with
  | .question => .error .question
  | _ => l.give option ""

/-- An option whose value comes with the next word. -/
def await (l : Level) (option : OptionSpec) : Except Stop Level := do
  let l ← l.settle
  return { l with waiting := some ⟨option, none⟩ }

/-- An option with its value in the same word. -/
def attach (l : Level) (option : OptionSpec) (text : List Char) : Except Stop Level := do
  let l ← l.settle
  l.give option (String.ofList text)

/-- A word after two dashes: the name of an option, and its value after an equals sign. -/
def long (l : Level) (word : List Char) : Except Stop Level :=
  let (name, text) := match Text.cut '=' word with
    | some (name, text) => (name, some text)
    | none => (word, none)
  match l.command.long? (String.ofList name) with
  | none => .error .refused
  | some option =>
    match option.accepts?, text with
    | some _, some text => l.attach option text
    | some _, none => l.await option
    | none, some _ => .error .refused
    | none, none => l.flag option

/-- A word after one dash: letters of options; the rest after one with a value is the value. -/
def shorts (l : Level) : List Char → Except Stop Level
  | [] => .ok l
  | letter :: rest =>
    match l.command.short? letter with
    | none => .error .refused
    | some option =>
      if option.accepts?.isSome then
        match rest with
        | [] => l.await option
        | '=' :: text => l.attach option text
        | text => l.attach option text
      else do (← l.flag option).shorts rest

/-- The argument of the command. It is judged late, like the value of an option. -/
def argument (l : Level) (word : String) : Except Stop Level :=
  match l.command.argument with
  | some (name, accepts) => do
    let l ← l.settle
    return { l with waiting := some ⟨⟨name, none, .single accepts, true, none⟩, some word⟩ }
  | none => .error .refused

/-- A word that is no option: a value that was waited for, or the argument. -/
def plain (l : Level) (word : String) : Except Stop Level :=
  match l.waiting with
  | some ⟨option, none⟩ => .ok { l with waiting := some ⟨option, some word⟩ }
  | _ => l.argument word

end Level

/-- How far a command line has been read. -/
structure Progress where
  /-- The command named last. -/
  level : Level
  /-- The commands above it, from the inside out. -/
  outer : List Level
  /-- Whether all further words are arguments, whatever they look like. -/
  argumentsOnly : Bool

namespace Progress

/-- A command line of which nothing has been read. -/
def start (program : CommandSpec) : Progress := ⟨.start program, [], false⟩

/-- Whether the next word can name a command. -/
def wantsCommand (p : Progress) : Bool := !p.argumentsOnly && !p.level.wantsValue

/-- Whether the next word asks for help. -/
def asksHelp (p : Progress) (word : String) : Bool :=
  p.wantsCommand && p.level.command.asksHelp word

/-- The command that the next word names. -/
def command? (p : Progress) (word : String) : Option CommandSpec :=
  if p.wantsCommand then p.level.command.command? word else none

/-- The progress when the command named last has come to a new level. -/
def withLevel (p : Progress) (level : Except Stop Level) : Except Stop Progress :=
  level.map fun level => { p with level }

/-- A word is read that does not ask for help. -/
def read (p : Progress) (word : String) : Except Stop Progress :=
  match p.command? word with
  | some command => .ok { p with level := .start command, outer := p.level :: p.outer }
  | none =>
    if p.argumentsOnly then p.withLevel (p.level.argument word)
    else
      match word.toList with
      | ['-', '-'] => .ok { p with argumentsOnly := true }
      | '-' :: '-' :: name => p.withLevel (p.level.long name)
      | '-' :: letter :: letters => p.withLevel (p.level.shorts (letter :: letters))
      | _ => p.withLevel (p.level.plain word)

/-- All words are read. -/
def readAll (p : Progress) : List String → Except Stop Progress
  | [] => .ok p
  | word :: words =>
    if p.asksHelp word then
      .error (if p.level.command.hasTopic words then .question else .refused)
    else do (← p.read word).readAll words

end Progress

/-! ## What has been given -/

/-- The environment variables that stand in for options, with the names of those. -/
def fallbacks (command : CommandSpec) (environment : List (String × String)) :
    List (OptionSpec × String) :=
  command.options.filterMap fun option =>
    option.fallback.bind fun name => (environment.lookup name).map fun text => (option, text)

/-- Whether a command has everything that it needs, and nothing that it cannot use. -/
def Level.isComplete (l : Level) (environment : List (String × String)) (isLast : Bool) : Bool :=
  (fallbacks l.command environment).all (fun (option, text) =>
      l.has option.long || option.accepts?.all (·.admits text)) &&
    l.command.options.all (fun option => !option.required || l.has option.long) &&
    l.command.argument.all (fun (name, _) => l.has name) &&
    (!isLast || l.command.commands.isEmpty)

/-- The commands from the inside out, each judged in turn. -/
def finish (environment : List (String × String)) (isLast : Bool) :
    List Level → Except Stop (List Level)
  | [] => .ok []
  | l :: outer => do
    let l ← l.settle
    if l.isComplete environment isLast then
      return l :: (← finish environment false outer)
    else .error .refused

/-- A command line that has been read. -/
structure Words where
  /-- The names of the commands, from the program's own on. -/
  commands : List String
  /-- Everything given, from the innermost command on, and what stands in for the rest. -/
  given : List (String × String)
deriving Repr, DecidableEq

namespace Words

/-- The text given under a name; that of the innermost command counts. -/
def text? (w : Words) (name : String) : Option String := w.given.lookup name

/-- All texts given under a name. -/
def texts (w : Words) (name : String) : List String :=
  (w.given.filter (·.1 == name)).map (·.2)

/-- Whether something has been given under a name. -/
def has (w : Words) (name : String) : Bool := (w.text? name).isSome

/-- What commands hold, from the inside out. -/
def ofLevels (program : CommandSpec) (environment : List (String × String))
    (levels : List Level) : Words where
  commands := (levels.map (·.command.name)).reverse
  given := levels.flatMap Level.given ++
    (fallbacks program environment).map fun (option, text) => (option.long, text)

end Words

/-- The words of a command line, read by the grammar of a program. -/
def read (program : CommandSpec) (environment : List (String × String)) (words : List String) :
    Except Stop Words := do
  let p ← (Progress.start program).readAll words
  let levels ← finish environment true (p.level :: p.outer)
  return .ofLevels program environment levels

/-! ## Laws -/

/-- What is carried out after something else comes of what the latter gives. -/
theorem exists_of_bind_eq_ok {α β : Type} {first : Except Stop α} {next : α → Except Stop β}
    {b : β} (h : (first >>= next) = .ok b) : ∃ a, first = .ok a ∧ next a = .ok b := by
  cases first with
  | error stop => cases h
  | ok a => exact ⟨a, rfl, h⟩

/-- What is given to a command does not change the command. -/
theorem Level.command_of_give {l l' : Level} {option : OptionSpec} {text : String}
    (h : l.give option text = .ok l') : l'.command = l.command := by
  rw [give] at h
  split at h
  · cases h
  · split at h <;> cases h
    rfl

theorem Level.command_of_settle {l l' : Level} (h : l.settle = .ok l') :
    l'.command = l.command := by
  rw [settle] at h
  split at h
  · cases h
    rfl
  · exact (command_of_give h).trans rfl
  · cases h

/-- The command named last has no commands below it. -/
theorem commands_of_finish {environment : List (String × String)} {l : Level}
    {outer levels : List Level} (h : finish environment true (l :: outer) = .ok levels) :
    l.command.commands = [] := by
  obtain ⟨settled, hsettle, hrest⟩ := exists_of_bind_eq_ok h
  rw [← Level.command_of_settle hsettle]
  split at hrest
  · next hcomplete =>
    simpa [Level.isComplete] using And.right (Bool.and_eq_true_iff.1 hcomplete)
  · cases hrest

/-- A command line that is read names a command without commands below it. -/
theorem innermost_of_read {program : CommandSpec} {environment : List (String × String)}
    {words : List String} {w : Words} (h : read program environment words = .ok w) :
    ∃ p, (Progress.start program).readAll words = .ok p ∧ p.level.command.commands = [] := by
  obtain ⟨p, hread, hrest⟩ := exists_of_bind_eq_ok h
  obtain ⟨levels, hfinish, _⟩ := exists_of_bind_eq_ok hrest
  exact ⟨p, hread, commands_of_finish hfinish⟩

end SiteAudit.CommandLine

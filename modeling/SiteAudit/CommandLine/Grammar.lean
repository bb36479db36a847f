/-!
# Grammars of command lines

What a program understands on its command line: commands with options, one
argument at most, and commands below them. The grammar is data; reading by it
is described elsewhere.
-/

namespace SiteAudit.CommandLine

/-- The texts that stand for a value. -/
inductive Accepts where
  | anyText
  | nonEmpty
  | oneOf (choices : List String)
deriving Repr, DecidableEq

/-- Whether a text can stand for a value. -/
def Accepts.admits : Accepts → String → Bool
  | anyText, _ => true
  | nonEmpty, text => !text.isEmpty
  | oneOf choices, text => choices.contains text

/-- What an option is for. -/
inductive OptionRole where
  /-- It asks about the program and ends the reading. -/
  | question
  /-- It is given or not. -/
  | switch
  /-- It counts how often it is given. -/
  | counter
  /-- It has a value. -/
  | single (accepts : Accepts)
  /-- It has a value each time that it is given. -/
  | several (accepts : Accepts)
deriving Repr, DecidableEq

/-- An option. -/
structure OptionSpec where
  /-- The name, as it stands after two dashes. -/
  long : String
  /-- The letter, as it stands after one dash. -/
  short : Option Char
  role : OptionRole
  required : Bool
  /-- The environment variable that stands in for the option. -/
  fallback : Option String
deriving Repr, DecidableEq

namespace OptionSpec

/-- The texts that the value of an option may be, if it has one. -/
def accepts? (o : OptionSpec) : Option Accepts :=
  match o.role with
  | .single accepts | .several accepts => some accepts
  | .question | .switch | .counter => none

/-- Whether an option may be given more than once to one command. -/
def isRepeatable (o : OptionSpec) : Bool :=
  match o.role with
  | .counter | .several _ => true
  | .question | .switch | .single _ => false

end OptionSpec

/-- A command with what belongs to it. -/
structure CommandSpec where
  name : String
  aliases : List String
  options : List OptionSpec
  /-- The argument that has to be given: what it is, and which texts it may be. -/
  argument : Option (String × Accepts)
  /-- The commands below it, of which one has to be given. -/
  commands : List CommandSpec

namespace CommandSpec

/-- Whether a word names the command. -/
def isNamed (c : CommandSpec) (word : String) : Bool := c.name == word || c.aliases.contains word

/-- The command below this one that a word names. -/
def command? (c : CommandSpec) (word : String) : Option CommandSpec :=
  c.commands.find? (·.isNamed word)

/-- The option with a name. -/
def long? (c : CommandSpec) (name : String) : Option OptionSpec :=
  c.options.find? (·.long == name)

/-- The option with a letter. -/
def short? (c : CommandSpec) (letter : Char) : Option OptionSpec :=
  c.options.find? (·.short == some letter)

/-- The word that asks for help wherever a command can be given. -/
def helpWord : String := "help"

/-- Whether a word at this command asks for help. -/
def asksHelp (c : CommandSpec) (word : String) : Bool := !c.commands.isEmpty && word == helpWord

/-- Whether words lead from this command to one that there is help for. -/
def hasTopic (c : CommandSpec) : List String → Bool
  | [] => true
  | word :: words =>
    match c.command? word with
    | some below => below.hasTopic words
    | none => c.asksHelp word && words.isEmpty

end CommandSpec

end SiteAudit.CommandLine

import Metamodel.Terminal.Style

/-!
Command-line programs described as data: options, positional arguments, and one level of
subcommands, with the texts that help shows.

A program reads its options and, after a subcommand's name, the subcommand's options. A global
option of the program is also an option of every subcommand. Every level can show help
(`-h`, `--help`); the program can show its version (`-V`, `--version`). A `help` subcommand shows
the help of the program or of the subcommands named after it.

A level is one command as it reads and shows itself: its own options, the global options it
takes from the program, and the help and version options, in that order.
-/

namespace Metamodel.Command

open Metamodel.Terminal

/-- A value an option accepts, with the help that long help shows for it. -/
structure Choice where
  name : String
  help : String := ""
deriving Inhabited

/-- What an option does when it is given. -/
inductive Action where
  /-- Turns a switch on; given at most once. -/
  | flag
  /-- Takes one value; given at most once. -/
  | single
  /-- Takes one value each time it is given. -/
  | repeated
  /-- Shows help. -/
  | help
  /-- Shows the version. -/
  | version
deriving DecidableEq, Inhabited

/-- How a value is checked when it is read. -/
inductive ValueKind where
  /-- Any text. -/
  | text
  /-- A path: any text but the empty one. -/
  | path
  /-- One of the option's choices. -/
  | choice
deriving DecidableEq, Inhabited

/-- An option: a name on the command line and what it does. -/
structure OptionSpec where
  id : String
  long : Option String := none
  short : Option Char := none
  help : String := ""
  longHelp : Option String := none
  /-- The placeholder of the value in help, for options that take one. -/
  valueName : String := ""
  action : Action
  valueKind : ValueKind := .text
  choices : List Choice := []
  default : Option String := none
  global : Bool := false
  /-- Options are listed by this number, then by name. -/
  order : Nat := 999
deriving Inhabited

namespace OptionSpec

/-- Whether the option takes a value. -/
def takesValue (o : OptionSpec) : Bool := o.action == .single || o.action == .repeated

/-- The option as messages name it: its long name (or short name), then its placeholder. -/
def display (o : OptionSpec) : String :=
  let name := match o.long, o.short with
    | some l, _ => "--" ++ l
    | none, some s => "-" ++ s.toString
    | none, none => ""
  if o.takesValue then name ++ " <" ++ o.valueName ++ ">" else name

/-- Whether long help shows more for the option: a long help text, or help for its choices. -/
def hasLongHelp (o : OptionSpec) : Bool :=
  o.longHelp.isSome || o.choices.any (!·.help.isEmpty)

end OptionSpec

/-- A positional argument. -/
structure Positional where
  id : String
  valueName : String
  help : String := ""
  /-- Whether it takes any number of values, none included. -/
  many : Bool := false
  valueKind : ValueKind := .text
deriving Inhabited

/-- The positional argument as help and messages show it: `[NAME]`, or `[NAME]...` for many
values. -/
def Positional.display (p : Positional) : String :=
  "[" ++ p.valueName ++ "]" ++ if p.many then "..." else ""

/-- A command: its name, texts, options and positional arguments. -/
structure CommandSpec where
  name : String
  about : String := ""
  longAbout : Option String := none
  afterLongHelp : Option String := none
  options : List OptionSpec := []
  positionals : List Positional := []
deriving Inhabited

/-- The styles of help and messages. -/
structure Palette where
  header : Style
  literal : Style
  placeholder : Style
  error : Style
  valid : Style
  invalid : Style
deriving Inhabited

/-- A program: the top command, its version, its subcommands, and the styles it shows text
in. A subcommand must be given. -/
structure Program where
  root : CommandSpec
  version : String
  subcommands : List CommandSpec
  palette : Palette
deriving Inhabited

/-- One command as it reads and shows itself. -/
structure Level where
  /-- The name usage shows: the program's name, then the subcommand's. -/
  usageName : String
  about : String
  longAbout : Option String
  afterLongHelp : Option String
  options : List OptionSpec
  positionals : List Positional
  /-- The subcommands' names and descriptions. -/
  subcommands : List (String × String)
  /-- Whether a subcommand must be given. -/
  needsSubcommand : Bool
  /-- Whether help is shown when nothing at all is given. -/
  helpWhenEmpty : Bool
deriving Inhabited

namespace Level

/-- The option of an id. -/
def option? (l : Level) (id : String) : Option OptionSpec := l.options.find? (·.id == id)

/-- The option of a long name. -/
def byLong? (l : Level) (name : String) : Option OptionSpec :=
  l.options.find? (·.long == some name)

/-- The option of a short name. -/
def byShort? (l : Level) (c : Char) : Option OptionSpec :=
  l.options.find? (·.short == some c)

/-- The positional argument of an id. -/
def positional? (l : Level) (id : String) : Option Positional := l.positionals.find? (·.id == id)

/-- Whether a word names a subcommand. -/
def isSubcommand (l : Level) (word : String) : Bool := l.subcommands.any (·.1 == word)

/-- Whether the level has a help option. -/
def hasHelpOption (l : Level) : Bool := l.options.any (·.action == .help)

/-- The option that messages point to for more information: `--help`, or the `help`
subcommand for a level without the option. -/
def helpPointer (l : Level) : String := if l.hasHelpOption then "--help" else "help"

end Level

namespace Program

/-- The description of the `help` subcommand. -/
def helpAbout : String := "Print this message or the help of the given subcommand(s)"

/-- Whether long help shows more than short help for a command with these options. -/
def showsMore (c : CommandSpec) (options : List OptionSpec) : Bool :=
  c.longAbout.isSome || c.afterLongHelp.isSome || options.any OptionSpec.hasLongHelp

/-- The help option; its text points to the other form of help when the two differ. -/
def helpOption (more : Bool) : OptionSpec :=
  if more then
    { id := "help", long := some "help", short := some 'h', action := .help,
      help := "Print help (see more with '--help')",
      longHelp := some "Print help (see a summary with '-h')" }
  else { id := "help", long := some "help", short := some 'h', action := .help, help := "Print help" }

/-- The version option. -/
def versionOption : OptionSpec :=
  { id := "version", long := some "version", short := some 'V', action := .version,
    help := "Print version" }

/-- The program's global options. -/
def globals (p : Program) : List OptionSpec := p.root.options.filter (·.global)

/-- The program's subcommands with their descriptions, `help` last. -/
def listing (p : Program) : List (String × String) :=
  p.subcommands.map (fun c => (c.name, c.about)) ++ [("help", helpAbout)]

/-- The program as a level. -/
def rootLevel (p : Program) : Level :=
  { usageName := p.root.name, about := p.root.about, longAbout := p.root.longAbout,
    afterLongHelp := p.root.afterLongHelp,
    options := p.root.options ++ [helpOption (showsMore p.root p.root.options), versionOption],
    positionals := p.root.positionals, subcommands := p.listing,
    needsSubcommand := true, helpWhenEmpty := true }

/-- A subcommand as a level: its options, then the global ones it does not have itself. -/
def subLevel (p : Program) (c : CommandSpec) : Level :=
  let inherited := p.globals.filter fun g => !c.options.any (·.id == g.id)
  let options := c.options ++ inherited
  { usageName := p.root.name ++ " " ++ c.name, about := c.about, longAbout := c.longAbout,
    afterLongHelp := c.afterLongHelp,
    options := options ++ [helpOption (showsMore c options)],
    positionals := c.positionals, subcommands := [],
    needsSubcommand := false, helpWhenEmpty := false }

/-- The `help` subcommand as a level: it takes the names of subcommands. -/
def helpLevel (p : Program) : Level :=
  { usageName := p.root.name ++ " help", about := helpAbout, longAbout := none,
    afterLongHelp := none, options := [],
    positionals := [{ id := "subcommand", valueName := "COMMAND",
                      help := "Print help for the subcommand(s)", many := true }],
    subcommands := [], needsSubcommand := false, helpWhenEmpty := false }

/-- The level of a subcommand's name. -/
def levelOf? (p : Program) (name : String) : Option Level :=
  if name == "help" then some p.helpLevel
  else (p.subcommands.find? (·.name == name)).map p.subLevel

end Program

end Metamodel.Command

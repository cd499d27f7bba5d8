import Metamodel.Command.Parse
import Metamodel.Text.Width

/-!
The command line of the generator tool: its options, its two commands (`generate` writes or
checks the accessor modules, `inspect` shows the resolved models), the texts its help shows,
and what a parsed command line asks the tool to do.

The options of the tool are global: the output format (`table`, `json` or `compact`), a
configuration file, quiet and verbose output, and colour. Both commands take the places to
scan, the crate name, classes to skip and `--debug`; `generate` also takes the output directory
and `--check`, `inspect` the name of one class to show.
-/

namespace Metamodel.Tool

open Metamodel.Command Metamodel.Terminal

/-- The name of the tool. -/
def toolName : String := "fluentmodel"

/-- A group of example command lines with a title. -/
structure ExampleGroup where
  title : String
  commands : List String

/-- Examples as long help lists them: a title line per group, its command lines indented. -/
def renderExamples (groups : List ExampleGroup) : String :=
  "Examples:" ++ String.join (groups.map fun g =>
    "\n  " ++ g.title ++ ":\n" ++ String.join (g.commands.map fun c => "    " ++ c ++ "\n"))

/-- The examples of `generate`. -/
def generateExamples : List ExampleGroup :=
  [{ title := "Generate",
     commands := [
       "fluentmodel generate                            # Scan src/ and write src/generated",
       "fluentmodel generate --output-dir src/model     # Write accessors elsewhere",
       "fluentmodel generate --skip LegacyInvoice       # Leave a class out"] },
   { title := "Continuous Integration",
     commands := [
       "fluentmodel generate --check                    # Fail if generated code is stale",
       "fluentmodel --output json generate --check      # Machine-readable report"] }]

/-- The examples of `inspect`. -/
def inspectExamples : List ExampleGroup :=
  [{ title := "Inspect",
     commands := [
       "fluentmodel inspect                          # Every resolved model",
       "fluentmodel inspect Book                     # One class, by simple or qualified name",
       "fluentmodel --output json inspect            # Models as JSON"] }]

/-- The environment variables the tool reads, with their descriptions. -/
def environmentVariables : List (String × String) :=
  [("FLUENTMODEL_DEBUG", "Set to 1 to report a note for every modeled class"),
   ("RUST_LOG", "Log filter, e.g. fluentmodel_build=debug")]

/-- The text after the tool's long help: its environment variables, aligned, and a pointer to
the examples. -/
def environmentHelp : String :=
  "Environment Variables:\n" ++
    String.join (environmentVariables.map fun (name, text) =>
      "  " ++ Text.padRight name 18 ++ " " ++ text ++ "\n") ++
    "\nUse 'fluentmodel <command> --help' for examples."

/-- The long description of the tool. -/
def longAbout : String :=
  "Fluent metamodel generator that:\n\n" ++
  "• Scans structs deriving Entity, MappedSuperclass and Embeddable\n" ++
  "• Resolves inheritance, embedding and associations into entity models\n" ++
  "• Writes one typed accessor module per entity, deterministically\n\n" ++
  "Commands:\n" ++
  "  generate  Write (or check) the accessor modules\n" ++
  "  inspect   Show the resolved entity models\n"

/-- The tool's global options. -/
def globalOptions : List OptionSpec :=
  [{ id := "output", long := some "output", help := "Output format", valueName := "OUTPUT",
     action := .single, valueKind := .choice, default := some "table", global := true, order := 0,
     choices := [{ name := "table", help := "Formatted table output (default)" },
                 { name := "json", help := "JSON output for scripting" },
                 { name := "compact", help := "Compact single-line output" }] },
   { id := "config", long := some "config", valueName := "FILE", action := .single,
     valueKind := .path, global := true, order := 1,
     help := "Config file [default: fluentmodel.toml in the project root]" },
   { id := "quiet", long := some "quiet", short := some 'q', action := .flag, global := true,
     order := 2, help := "Suppress output (only errors will be shown)" },
   { id := "verbose", long := some "verbose", short := some 'v', action := .flag, global := true,
     order := 3, help := "Enable verbose output and debug logging" },
   { id := "no-color", long := some "no-color", action := .flag, global := true, order := 4,
     help := "Disable colored output" }]

/-- The options both commands take: where to find mapped classes. -/
def sourceOptions : List OptionSpec :=
  [{ id := "scan-path", long := some "scan-path", valueName := "DIR", action := .repeated,
     valueKind := .path, order := 0,
     help := "Directory to scan for mapped classes (repeatable) [default: src/]" },
   { id := "crate-name", long := some "crate-name", valueName := "NAME", action := .single,
     order := 1, help := "Root segment of qualified names [default: crate]" },
   { id := "skip", long := some "skip", valueName := "CLASS", action := .repeated, order := 2,
     help := "Leave a class (simple or qualified name) out of generation (repeatable)" },
   { id := "debug", long := some "debug", action := .flag, order := 3,
     help := "Report a note for every modeled class" }]

/-- The `generate` command. -/
def generateCommand : CommandSpec :=
  { name := "generate", about := "Generate accessor modules, or check that they are up to date",
    afterLongHelp := some (renderExamples generateExamples),
    options := sourceOptions ++
      [{ id := "output-dir", long := some "output-dir", valueName := "DIR", action := .single,
         valueKind := .path, order := 4,
         help := "Directory receiving the accessor modules [default: src/generated]" },
       { id := "check", long := some "check", action := .flag, order := 5,
         help := "Compare against the output directory without writing; fails when out of date" }] }

/-- The `inspect` command. -/
def inspectCommand : CommandSpec :=
  { name := "inspect", about := "Show the resolved entity models",
    afterLongHelp := some (renderExamples inspectExamples),
    options := sourceOptions,
    positionals := [{ id := "class", valueName := "CLASS",
                      help := "Only show this class (simple or qualified name)" }] }

/-- The styles of help and of mistakes: headings bold bright blue, names bright cyan,
placeholders grey, the error mark bold red. -/
def palette : Palette :=
  { header := Style.boldColored .brightBlue, literal := Style.colored .brightCyan,
    placeholder := Style.colored .brightBlack, error := Style.boldColored .red,
    valid := Style.colored .green, invalid := Style.colored .yellow }

/-- The tool's command line. -/
def program : Program :=
  { root := { name := toolName, about := "Fluent metamodel generator for mapped entity classes",
              longAbout := some longAbout, afterLongHelp := some environmentHelp,
              options := globalOptions },
    version := "0.1.0", subcommands := [generateCommand, inspectCommand], palette }

/-- How results are printed. -/
inductive OutputFormat where
  | table
  | json
  | compact
deriving DecidableEq, Inhabited

/-- The format of a choice's name. -/
def OutputFormat.ofName : String → OutputFormat
  | "json" => .json
  | "compact" => .compact
  | _ => .table

/-- Where a command finds mapped classes. -/
structure SourceArgs where
  scanPaths : List String
  crateName : Option String
  skip : List String
  debug : Bool
deriving Inhabited

/-- What the tool is asked to do. -/
inductive Task where
  /-- Write the accessor modules, or only check them. -/
  | generate (source : SourceArgs) (outputDir : Option String) (check : Bool)
  /-- Show the resolved models, or one of them. -/
  | inspect (source : SourceArgs) (className : Option String)
deriving Inhabited

/-- A command line as the tool reads it. -/
structure Invocation where
  format : OutputFormat
  config : Option String
  quiet : Bool
  verbose : Bool
  noColor : Bool
  task : Task
deriving Inhabited

/-- What a parsed command line asks for. -/
def Invocation.ofParsed (p : Parsed) : Invocation :=
  let source : SourceArgs :=
    { scanPaths := p.values "scan-path", crateName := p.value? "crate-name",
      skip := p.values "skip", debug := p.flag "debug" }
  { format := OutputFormat.ofName ((p.value? "output").getD "table"),
    config := p.value? "config", quiet := p.flag "quiet", verbose := p.flag "verbose",
    noColor := p.flag "no-color",
    task := match p.subcommand with
      | some ("generate", _) => .generate source (p.value? "output-dir") (p.flag "check")
      | _ => .inspect source (p.value? "class") }

end Metamodel.Tool

import Metamodel.Command.Spec
import Metamodel.Text.Width

/-!
The usage line and the help of a command level.

Usage names the command, then `[OPTIONS]` when it has options other than help and version,
its positional arguments, and `<COMMAND>` when it needs a subcommand. After a mistake, usage
names instead the options already given, as they are written (`--output <OUTPUT>`), before
the positional arguments, a given one as required (`<CLASS>`).

Help shows the description, the usage, and sections for the subcommands, the positional
arguments and the options; long help adds the long description, the help of each choice, and
the text after the sections. In short help each entry's text follows it on its line, aligned
with the others; in long help it stands on the next line, indented, and entries are separated
by blank lines. Options are listed by their order number, then by short name (lower case
first) or long name; subcommands by their order, then by name, `help` last.
-/

namespace Metamodel.Command

open Metamodel.Terminal Metamodel.Text

namespace Level

/-- Spaces. -/
def blanks (n : Nat) : String := String.ofList (List.replicate n ' ')

/-- Whether the level lists `[OPTIONS]` in its usage: it has an option other than help and
version. -/
def hasOptionsTag (l : Level) : Bool :=
  l.options.any fun o => o.action != .help && o.action != .version

/-- An option's placeholder after its name, in the placeholder style. -/
def valueSuffix (pal : Palette) (o : OptionSpec) : Styled :=
  if o.takesValue then
    Styled.styled pal.placeholder " " ++ Styled.styled pal.placeholder ("<" ++ o.valueName ++ ">")
  else []

/-- An option as usage names it. -/
def optionUsage (pal : Palette) (o : OptionSpec) : Styled :=
  let name := match o.long, o.short with
    | some l, _ => "--" ++ l
    | none, some s => "-" ++ s.toString
    | none, none => ""
  Styled.styled pal.literal name ++ valueSuffix pal o

/-- The usage of the level, without arguments given. -/
def helpUsage (l : Level) (pal : Palette) : Styled :=
  let pieces : List Styled :=
    (if l.hasOptionsTag then [Styled.styled pal.placeholder "[OPTIONS]"] else []) ++
      l.positionals.map (fun p => Styled.styled pal.placeholder p.display) ++
      (if l.subcommands.isEmpty then []
       else [Styled.styled pal.placeholder (if l.needsSubcommand then "<COMMAND>" else "[COMMAND]")])
  Styled.styled pal.literal l.usageName ++ (pieces.map (Styled.plain " " ++ ·)).flatten

/-- The usage of the level naming the options given (by id, in the order they were given),
then every positional argument: as required when it was given, else as it is declared. -/
def givenUsage (l : Level) (pal : Palette) (given : List String) : Styled :=
  let options := given.filterMap fun id => (l.option? id).map (optionUsage pal)
  let positionals := l.positionals.map fun p =>
    if given.contains p.id then
      Styled.styled pal.placeholder ("<" ++ p.valueName ++ ">" ++ if p.many then "..." else "")
    else Styled.styled pal.placeholder p.display
  let tail := if l.needsSubcommand then [Styled.styled pal.placeholder "<COMMAND>"] else []
  Styled.styled pal.literal l.usageName ++
    ((options ++ positionals ++ tail).map (Styled.plain " " ++ ·)).flatten

/-- The usage for a message: without arguments when none was given. -/
def usageFor (l : Level) (pal : Palette) (given : List String) : Styled :=
  if given.isEmpty then l.helpUsage pal else l.givenUsage pal given

/-- The key options are listed by: order number, then short name in lower case followed by `0`
for a lower-case name and `1` otherwise, or long name. -/
def sortKey (o : OptionSpec) : Nat × String :=
  (o.order, match o.short, o.long with
    | some c, _ => String.ofList [c.toLower, if c.isLower then '0' else '1']
    | none, some l => l
    | none, none => "\x7b" ++ o.id)

/-- Options in listing order. -/
def sortedOptions (options : List OptionSpec) : List OptionSpec :=
  options.mergeSort fun a b =>
    let ka := sortKey a
    let kb := sortKey b
    decide (ka.1 < kb.1 ∨ (ka.1 = kb.1 ∧ ka.2 ≤ kb.2))

/-- Whether an entry's text is put on the next line although the help is short: the entry
column takes `taken` of 100 columns, more than 40, and the text does not fit beside it. -/
def crowded (taken textWidth : Nat) : Bool :=
  100 ≥ taken && taken > 40 && textWidth > 100 - taken

/-- The extra values of an option that help shows: its default, and its choices where long
help does not list them. -/
def specValues (o : OptionSpec) (listsChoices : Bool) : List String :=
  (if o.takesValue then o.default.toList.map (fun d => "[default: " ++ d ++ "]") else []) ++
    (if !listsChoices && !o.choices.isEmpty then
      ["[possible values: " ++ ", ".intercalate (o.choices.map (·.name)) ++ "]"] else [])

/-- A help text with its continuation lines indented. -/
def indentLines (indent : Nat) (text : String) : String :=
  text.replace "\n" ("\n" ++ blanks indent)

/-- The text of an entry after its name: on the same line after `pad` blanks, or on the next
line indented by ten. Long help adds the choices with their help, then the extra values on
their own lines. -/
def entryText (pal : Palette) (long nextLine : Bool) (pad : Nat) (help : String)
    (extras : List String) (choices : List Choice) (indent : Nat) : Styled :=
  let start := if nextLine then Styled.plain ("\n" ++ blanks 10) else Styled.plain (blanks pad)
  let listsChoices := long && choices.any (!·.help.isEmpty)
  let choiceBlock : Styled :=
    if listsChoices then
      let widest := choices.foldl (fun w c => max w (width c.name)) 0
      (if help.isEmpty then [] else Styled.plain ("\n\n" ++ blanks indent)) ++
        Styled.plain "Possible values:" ++
        (choices.map fun c =>
          Styled.plain ("\n" ++ blanks indent ++ "- ") ++ Styled.styled pal.literal c.name ++
            (if c.help.isEmpty then []
             else Styled.plain (": " ++ blanks (widest - width c.name) ++ c.help))).flatten
    else []
  let extraText := (if long then "\n" else " ").intercalate extras
  let extraBlock : Styled :=
    if extraText.isEmpty then []
    else
      let sep := if help.isEmpty && !listsChoices then "" else if long then "\n\n" else " "
      Styled.plain (indentLines indent (sep ++ extraText))
  start ++ Styled.plain (indentLines indent help) ++ choiceBlock ++ extraBlock

/-- The entries of the options section. -/
def optionEntries (l : Level) (pal : Palette) (long : Bool) : Styled :=
  let options := sortedOptions l.options
  let longest := options.foldl (fun w o => max w (width o.display)) 2
  let textOf (o : OptionSpec) : String :=
    if long then o.longHelp.getD o.help else o.help
  let nextLine := long || options.any fun o =>
    crowded (longest + 8) (width (textOf o) + width (" ".intercalate (specValues o false)))
  let entry (o : OptionSpec) : Styled :=
    let shortPart : Styled := match o.short with
      | some c => Styled.styled pal.literal ("-" ++ c.toString)
      | none => if o.long.isSome then Styled.plain "    " else []
    let longPart : Styled := match o.long with
      | some n => (if o.short.isSome then Styled.plain ", " else []) ++ Styled.styled pal.literal ("--" ++ n)
      | none => []
    let pad := longest + (if o.long.isSome then 2 else 6) - width o.display
    let listsChoices := long && o.choices.any (!·.help.isEmpty)
    Styled.plain "  " ++ shortPart ++ longPart ++ valueSuffix pal o ++
      entryText pal long nextLine pad (textOf o) (specValues o listsChoices)
        (if listsChoices then o.choices else []) (if nextLine then 10 else longest + 4)
  let separator := if nextLine && long then "\n\n" else "\n"
  (options.map entry).intersperse (Styled.plain separator) |>.flatten

/-- The entries of the positional arguments section. -/
def positionalEntries (l : Level) (pal : Palette) (long : Bool) : Styled :=
  let longest := l.positionals.foldl (fun w p => max w (width p.display)) 2
  let nextLine := long || l.positionals.any fun p => crowded (longest + 4) (width p.help)
  let entry (p : Positional) : Styled :=
    Styled.plain "  " ++ Styled.styled pal.placeholder p.display ++
      entryText pal long nextLine (longest + 2 - width p.display) p.help [] []
        (if nextLine then 10 else longest + 4)
  let separator := if nextLine && long then "\n\n" else "\n"
  (l.positionals.map entry).intersperse (Styled.plain separator) |>.flatten

/-- The entries of the subcommands section: each name and description, aligned. -/
def subcommandEntries (l : Level) (pal : Palette) : Styled :=
  let longest := l.subcommands.foldl (fun w s => max w (width s.1)) 2
  let nextLine := l.subcommands.any fun s => crowded (longest + 4) (width s.2)
  let entry (s : String × String) : Styled :=
    Styled.plain "  " ++ Styled.styled pal.literal s.1 ++
      entryText pal false nextLine (longest + 2 - width s.1) s.2 [] [] (if nextLine then 10 else longest + 4)
  (l.subcommands.map entry).intersperse (Styled.plain "\n") |>.flatten

/-- Whether long help shows more than short help. -/
def showsMore (l : Level) : Bool :=
  l.longAbout.isSome || l.afterLongHelp.isSome || l.options.any OptionSpec.hasLongHelp

/-- The text without blanks at its end. -/
def trimEnd (text : String) : String :=
  String.ofList (text.toList.reverse.dropWhile Char.isWhitespace).reverse

/-- The help of the level, short or long, with or without colour; it ends with one line
break. -/
def help (l : Level) (pal : Palette) (longWanted color : Bool) : String :=
  let long := longWanted && l.showsMore
  let about := if long then l.longAbout.getD l.about else l.about
  let titled (title : String) (entries : Styled) : Styled :=
    Styled.styled pal.header (title ++ ":") ++ Styled.plain "\n" ++ entries
  let sections : List Styled :=
    (if l.subcommands.isEmpty then [] else [titled "Commands" (l.subcommandEntries pal)]) ++
    (if l.positionals.isEmpty then [] else [titled "Arguments" (l.positionalEntries pal long)]) ++
    (if l.options.isEmpty then [] else [titled "Options" (l.optionEntries pal long)])
  let after := match l.afterLongHelp with
    | some text => if long then Styled.plain ("\n\n" ++ text) else []
    | none => []
  let body : Styled :=
    (if about.isEmpty then [] else Styled.plain (about ++ "\n")) ++ Styled.plain "\n" ++
      Styled.styled pal.header "Usage:" ++ Styled.plain " " ++ l.helpUsage pal ++
      Styled.plain "\n\n" ++ (sections.intersperse (Styled.plain "\n\n")).flatten ++ after
  let text := body.render color
  let text := match text.splitOn "\n" with
    | first :: rest => if first.toList.all Char.isWhitespace && !rest.isEmpty then "\n".intercalate rest else text
    | [] => text
  trimEnd text ++ "\n"

end Level

end Metamodel.Command

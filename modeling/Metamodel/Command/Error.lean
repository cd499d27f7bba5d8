import Metamodel.Command.Help

/-!
Mistakes on a command line and how they are reported.

A report reads `error: ` and the problem, then hints (similar names that exist, or how to pass
a word as a value), then the usage when there is one, and ends by pointing to the help. Words
the user wrote are shown in the invalid style, names that exist in the valid style.
-/

namespace Metamodel.Command

open Metamodel.Terminal

/-- What is wrong with a command line. -/
inductive Problem where
  /-- A word that looks like an option (or stands where none is expected) names nothing. -/
  | unknownArgument (arg : String)
  /-- A word where a subcommand is expected names none. -/
  | unrecognizedSubcommand (name : String)
  /-- A value is not accepted by its option; an empty value is a missing one. -/
  | invalidValue (value : String) (arg : String) (choices : List String)
  /-- A value is attached to an option that takes none. -/
  | unexpectedValue (value : String) (arg : String)
  /-- An option that may be given once is given again. -/
  | repeatedArgument (arg : String)
  /-- No subcommand is given. -/
  | missingSubcommand (command : String) (subcommands : List String)
deriving Inhabited

/-- A hint after the problem. -/
inductive Hint where
  /-- Subcommands with similar names, the most alike last. -/
  | similarSubcommands (names : List String)
  /-- An option with a similar long name. -/
  | similarArgument (name : String)
  /-- An accepted value like the one given. -/
  | similarValue (value : String)
  /-- The word can be passed as a value after `--`; `command` is put before `--`. -/
  | passAsValue (arg : String) (command : String)
  /-- A subcommand of that name exists but `--` stood before it. -/
  | removeSeparator (name : String)
  /-- A subcommand has an option of a similar name. -/
  | optionOfSubcommand (subcommand : String) (option : String)
deriving Inhabited

/-- A mistake on a command line, with its hints, the usage to show, and the option that points
to help. -/
structure UsageError where
  problem : Problem
  hints : List Hint := []
  usage : Option Styled := none
  helpPointer : String := "--help"
deriving Inhabited

namespace UsageError

/-- A name written in double quotes when it holds a blank. -/
def escaped (name : String) : String :=
  if name.toList.any Char.isWhitespace then "\"" ++ name ++ "\"" else name

/-- A list of names: `[label: a, b]` on a line of its own. -/
def nameList (pal : Palette) (label : String) (names : List String) : Styled :=
  if names.isEmpty then []
  else
    Styled.plain ("\n  [" ++ label ++ ": ") ++
      ((names.map fun n => Styled.styled pal.valid (escaped n)).intersperse (Styled.plain ", ")).flatten ++
      Styled.plain "]"

/-- The problem in words. -/
def Problem.describe (pal : Palette) : Problem → Styled
  | .unknownArgument arg =>
    Styled.plain "unexpected argument '" ++ Styled.styled pal.invalid arg ++ Styled.plain "' found"
  | .unrecognizedSubcommand name =>
    Styled.plain "unrecognized subcommand '" ++ Styled.styled pal.invalid name ++ Styled.plain "'"
  | .invalidValue value arg choices =>
    (if value.isEmpty then
      Styled.plain "a value is required for '" ++ Styled.styled pal.literal arg ++
        Styled.plain "' but none was supplied"
    else
      Styled.plain "invalid value '" ++ Styled.styled pal.invalid value ++ Styled.plain "' for '" ++
        Styled.styled pal.literal arg ++ Styled.plain "'") ++ nameList pal "possible values" choices
  | .unexpectedValue value arg =>
    Styled.plain "unexpected value '" ++ Styled.styled pal.invalid value ++ Styled.plain "' for '" ++
      Styled.styled pal.literal arg ++ Styled.plain "' found; no more were expected"
  | .repeatedArgument arg =>
    Styled.plain "the argument '" ++ Styled.styled pal.invalid arg ++
      Styled.plain "' cannot be used multiple times"
  | .missingSubcommand command subcommands =>
    Styled.plain "'" ++ Styled.styled pal.invalid command ++
      Styled.plain "' requires a subcommand but one was not provided" ++
      nameList pal "subcommands" subcommands

/-- A hint naming similar things: `tip: a similar … exists: '…'`. -/
def similar (pal : Palette) (what : String) (names : List String) : Styled :=
  let quotedNames := (names.map fun n => Styled.plain "'" ++ Styled.styled pal.valid n ++ Styled.plain "'")
  Styled.plain "  " ++ Styled.styled pal.valid "tip:" ++
    Styled.plain (if names.length == 1 then " a similar " ++ what ++ " exists: "
      else " some similar " ++ what ++ "s exist: ") ++
    (quotedNames.intersperse (Styled.plain ", ")).flatten

/-- The text of a hint that is not about similar names. -/
def Hint.suggestion (pal : Palette) : Hint → Option Styled
  | .passAsValue arg command =>
    some (Styled.plain "to pass '" ++ Styled.styled pal.invalid arg ++ Styled.plain "' as a value, use '" ++
      Styled.styled pal.valid (command ++ "-- " ++ arg) ++ Styled.plain "'")
  | .removeSeparator name =>
    some (Styled.plain "subcommand '" ++ Styled.styled pal.valid name ++
      Styled.plain "' exists; to use it, remove the '" ++ Styled.styled pal.invalid "--" ++
      Styled.plain "' before it")
  | .optionOfSubcommand subcommand option =>
    some (Styled.plain "'" ++ Styled.styled pal.valid (subcommand ++ " " ++ option) ++ Styled.plain "' exists")
  | _ => none

/-- The text of a hint about similar names. -/
def Hint.similarity (pal : Palette) : Hint → Option Styled
  | .similarSubcommands names => some (similar pal "subcommand" names)
  | .similarArgument name => some (similar pal "argument" [name])
  | .similarValue value => some (similar pal "value" [value])
  | _ => none

/-- The report of a mistake. -/
def render (e : UsageError) (pal : Palette) : Styled :=
  let similarities := e.hints.filterMap (Hint.similarity pal)
  let suggestions := e.hints.filterMap (Hint.suggestion pal)
  let similarPart := similarities.map (fun s => Styled.plain "\n" ++ s)
  let similarPart := match similarPart with
    | [] => []
    | first :: rest => (Styled.plain "\n" ++ first) :: rest
  let suggestionPart :=
    (if suggestions.isEmpty || !similarities.isEmpty then [] else Styled.plain "\n") ++
      (suggestions.map fun s => Styled.plain "\n  " ++ Styled.styled pal.valid "tip:" ++
        Styled.plain " " ++ s).flatten
  Styled.styled pal.error "error:" ++ Styled.plain " " ++ Problem.describe pal e.problem ++
    similarPart.flatten ++ suggestionPart ++
    (match e.usage with
     | some u => Styled.plain "\n\n" ++ Styled.styled pal.header "Usage:" ++ Styled.plain " " ++ u
     | none => []) ++
    Styled.plain "\n\nFor more information, try '" ++ Styled.styled pal.literal e.helpPointer ++
    Styled.plain "'.\n"

end UsageError

end Metamodel.Command

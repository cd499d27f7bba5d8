import Metamodel.Command.Error
import Metamodel.Text.Similarity

/-!
Reading a command line against a program's description.

Words are read left to right. A word that names a subcommand, where no option waits for its
value, ends the program's own words; `help` then shows the help of the subcommands named after
it. After `--` every word is positional. `--name` and `--name=value` name an option by its long
name; `-abc` names options by their short names, and the rest of the word after an option that
takes a value (an `=` dropped) is its value. An option that takes a value and has none attached
takes the next word. Other words fill the positional arguments in order.

A value is checked when the next option is met, or at the end: a path may not be empty, a choice
must be one of the option's choices. An option other than a repeatable one may not be given
twice. A word that names nothing is reported with the names most like it. Help and the version
stop reading at once. When the program's words end without a subcommand, help is shown if
nothing at all was given, and otherwise a subcommand is asked for. A subcommand's words are read
before the program's last value is checked.
-/

namespace Metamodel.Command

open Metamodel.Terminal

/-- How an argument was named. -/
inductive Naming where
  | long
  | short
  | position
deriving DecidableEq, Inhabited

/-- Values read for an argument that have not been checked yet. -/
structure Pending where
  id : String
  naming : Naming
  values : List String
deriving Inhabited

/-- What one level has read so far. -/
structure Reading where
  /-- Arguments given, by id, with their values, in the order they were first given. -/
  given : List (String × List String) := []
  pending : Option Pending := none
  /-- The option that waits for its value. -/
  awaiting : Option String := none
  /-- The index of the next positional argument. -/
  position : Nat := 0
  /-- Whether `--` was read. -/
  afterSeparator : Bool := false
deriving Inhabited

/-- Why reading stops before the command runs. -/
inductive Stop where
  /-- Help of a level was asked for, long or short. -/
  | help (level : Level) (long : Bool)
  /-- Nothing was given: short help, shown as an error. -/
  | helpForNothing (level : Level)
  /-- The version was asked for. -/
  | version
  /-- A mistake. -/
  | mistake (e : UsageError)
deriving Inhabited

/-- The arguments given to the program and to its subcommand. -/
structure Parsed where
  root : List (String × List String)
  subcommand : Option (String × List (String × List String))
deriving Inhabited

namespace Reading

/-- The ids given, in order. -/
def givenIds (r : Reading) : List String := r.given.map Prod.fst

/-- Whether an argument was given. -/
def has (r : Reading) (id : String) : Bool := r.given.any (·.1 == id)

/-- Adds values to an argument, appending it when new. -/
def add (r : Reading) (id : String) (values : List String) : Reading :=
  if r.has id then
    { r with given := r.given.map fun (i, vs) => if i == id then (i, vs ++ values) else (i, vs) }
  else { r with given := r.given ++ [(id, values)] }

/-- Forgets an argument. -/
def remove (r : Reading) (id : String) : Reading :=
  { r with given := r.given.filter (·.1 != id) }

end Reading

namespace Level

/-- Checks one value of an argument. -/
def checkValue (l : Level) (kind : ValueKind) (choices : List Choice) (display value : String) :
    Except Stop Unit :=
  let names := choices.map (·.name)
  let invalid (names : List String) : Except Stop Unit :=
    .error (.mistake { problem := .invalidValue value display names,
                       hints := ((Text.similarCandidates value names).getLast?.map Hint.similarValue).toList,
                       helpPointer := l.helpPointer })
  match kind with
  | .text => .ok ()
  | .path => if value.isEmpty then invalid [] else .ok ()
  | .choice => if names.contains value then .ok () else invalid names

/-- Records the pending values: checks their number and each value, refuses an option given
twice, and adds them. -/
def settle (l : Level) (pal : Palette) (r : Reading) : Except Stop Reading :=
  match r.pending with
  | none => .ok r
  | some p =>
    let r := { r with pending := none }
    match l.option? p.id with
    | some o => do
      if p.values.isEmpty then
        .error (.mistake { problem := .invalidValue "" o.display (o.choices.map (·.name)),
                           helpPointer := l.helpPointer })
      if o.action == .single && p.naming != .position && r.has o.id then
        .error (.mistake { problem := .repeatedArgument o.display,
                           usage := some (l.helpUsage pal), helpPointer := l.helpPointer })
      for v in p.values do
        l.checkValue o.valueKind o.choices o.display v
      pure (r.add o.id p.values)
    | none =>
      match l.positional? p.id with
      | some pos => do
        for v in p.values do
          l.checkValue pos.valueKind [] pos.display v
        pure (r.add pos.id p.values)
      | none => .ok r

/-- Records the pending values for a report of a later mistake, where their own refusal is not
reported: an option without a value stays as it was, an option given twice is taken back, and an
option with a value that is not valid counts as given. -/
def settleQuietly (l : Level) (pal : Palette) (r : Reading) : Reading :=
  match l.settle pal r with
  | .ok r => r
  | .error _ =>
    let cleared := { r with pending := none }
    match r.pending with
    | some p =>
      match l.option? p.id with
      | some o =>
        if p.values.isEmpty then cleared
        else if o.action == .single && p.naming != .position && r.has o.id then cleared.remove o.id
        else cleared.add o.id []
      | none => cleared
    | none => cleared

/-- Acts on an option given without a value of its own: records the pending values first,
then turns a switch on, shows help or the version, or waits for the option's value. -/
def takeOption (l : Level) (pal : Palette) (r : Reading) (o : OptionSpec) (naming : Naming) :
    Except Stop Reading := do
  let r ← l.settle pal r
  match o.action with
  | .help => .error (.help l (naming == .long))
  | .version => .error .version
  | .flag =>
    if r.has o.id then
      .error (.mistake { problem := .repeatedArgument o.display,
                         usage := some (l.helpUsage pal), helpPointer := l.helpPointer })
    else pure (r.add o.id ["true"])
  | _ => pure { r with pending := some ⟨o.id, naming, []⟩, awaiting := some o.id }

/-- Acts on an option given with a value attached. -/
def takeAttached (l : Level) (pal : Palette) (r : Reading) (o : OptionSpec) (naming : Naming)
    (value : String) : Except Stop Reading := do
  let r ← l.settle pal r
  l.settle pal { r with pending := some ⟨o.id, naming, [value]⟩ }

/-- The long names of a level's options. -/
def longNames (l : Level) : List String := l.options.filterMap (·.long)

/-- The mistake of an unknown `--name`: the most similar long name of the level, else of a
subcommand named later on the line; the usage names what was given and the suggestion. -/
def unknownLong (l : Level) (p : Program) (pal : Palette) (r : Reading) (name : String)
    (later : List String) : Stop :=
  let r := l.settleQuietly pal r
  let own := (Text.similarCandidates name l.longNames).getLast?
  let fromSubcommand : Option (String × String) :=
    if own.isSome then none
    else
      let candidates := (l.subcommands.filterMap fun (sub, _) =>
        match p.levelOf? sub, later.findIdx? (· == sub) with
        | some level, some index =>
          (Text.similarCandidates name level.longNames).getLast?.map fun c => (index, sub, c)
        | _, _ => none)
      let best := candidates.foldl (fun acc c => match acc with
        | some a => if c.1 < a.1 then some c else some a
        | none => some c) none
      best.map fun (_, sub, c) => (sub, c)
  let used := match own.bind fun c => (l.options.find? (·.long == some c)) with
    | some o => if r.has o.id then r.givenIds else r.givenIds ++ [o.id]
    | none => r.givenIds
  let passTip := own.isNone && fromSubcommand.isNone && !r.afterSeparator && !l.positionals.isEmpty
  { problem := .unknownArgument ("--" ++ name),
    hints := (own.map (fun c => Hint.similarArgument ("--" ++ c))).toList ++
      (if passTip then [Hint.passAsValue ("--" ++ name) ""] else []) ++
      (fromSubcommand.map fun (sub, c) => Hint.optionOfSubcommand sub ("--" ++ c)).toList,
    usage := some (l.usageFor pal used), helpPointer := l.helpPointer } |> .mistake

/-- Reads `-abc`: each letter names an option; one that takes a value takes the rest of the
word (without a leading `=`) or, when nothing is left, the next word. -/
def readShorts (l : Level) (pal : Palette) (word : String) :
    Reading → List Char → Except Stop Reading
  | r, [] => .ok r
  | r, c :: more =>
    match l.byShort? c with
    | none =>
      let r := l.settleQuietly pal r
      .error (.mistake { problem := .unknownArgument ("-" ++ c.toString),
                         hints := if !r.afterSeparator && !l.positionals.isEmpty
                           then [Hint.passAsValue ("-" ++ c.toString) ""] else [],
                         usage := some (l.helpUsage pal), helpPointer := l.helpPointer })
    | some o =>
      if o.takesValue then
        let rest := match more with
          | '=' :: after => after
          | _ => more
        if rest.isEmpty then l.takeOption pal r o .short
        else l.takeAttached pal r o .short (String.ofList rest)
      else do
        let r ← l.takeOption pal r o .short
        readShorts l pal word r more

/-- The mistake of a word that fills no positional argument. -/
def strayWord (l : Level) (pal : Palette) (r : Reading) (word : String) : Stop :=
  let r := l.settleQuietly pal r
  let usage := some (l.helpUsage pal)
  if r.afterSeparator && l.isSubcommand word then
    .mistake { problem := .unknownArgument "--", hints := [.removeSeparator word], usage,
               helpPointer := l.helpPointer }
  else
    let looksLikeOption := word.startsWith "-" && word.length > 1
    let passTip := !r.afterSeparator && !l.positionals.isEmpty && looksLikeOption
    let similarNames := Text.similarCandidates word (l.subcommands.map Prod.fst)
    if !l.subcommands.isEmpty && !similarNames.isEmpty then
      .mistake { problem := .unrecognizedSubcommand word,
                 hints := [.similarSubcommands similarNames] ++
                   (if passTip then [Hint.passAsValue word (l.usageName ++ " ")] else []),
                 usage, helpPointer := l.helpPointer }
    else if !l.subcommands.isEmpty && l.positionals.isEmpty then
      .mistake { problem := .unrecognizedSubcommand word, usage, helpPointer := l.helpPointer }
    else
      .mistake { problem := .unknownArgument word,
                 hints := if passTip then [Hint.passAsValue word ""] else [],
                 usage, helpPointer := l.helpPointer }

/-- Reads a positional word: it fills the next positional argument, or the current one when that
takes many values. -/
def readPositional (l : Level) (pal : Palette) (r : Reading) (word : String) : Except Stop Reading :=
  match l.positionals[r.position]? with
  | none => .error (l.strayWord pal r word)
  | some pos => do
    let sameMany := pos.many && (r.pending.map (·.id)) == some pos.id
    let r ← if sameMany then pure r else l.settle pal r
    let before := match r.pending with
      | some p => if p.id == pos.id then p.values else []
      | none => []
    pure { r with pending := some ⟨pos.id, .position, before ++ [word]⟩,
                  position := if pos.many then r.position else r.position + 1 }

/-- Reads the words of a level up to a subcommand's name: the reading, and the subcommand's name
with the words after it. -/
def readWords (l : Level) (p : Program) (pal : Palette) :
    Reading → List String → Except Stop (Reading × Option (String × List String))
  | r, [] => .ok (r, none)
  | r, word :: rest =>
    if !r.afterSeparator && r.awaiting.isNone && l.isSubcommand word then
      .ok (r, some (word, rest))
    else if !r.afterSeparator && word == "--" then
      readWords l p pal { r with afterSeparator := true } rest
    else if !r.afterSeparator && word.startsWith "--" then
      let body := String.ofList (word.toList.drop 2)
      let (name, value) := match body.splitOn "=" with
        | [] => (body, none)
        | [n] => (n, none)
        | n :: vs => (n, some ("=".intercalate vs))
      match l.byLong? name with
      | none => .error (l.unknownLong p pal r name rest)
      | some o =>
        let step : Except Stop Reading :=
          match value with
          | none => l.takeOption pal r o .long
          | some v =>
            if o.takesValue then l.takeAttached pal r o .long v
            else
              -- the usage names what was recorded before this word, not the pending values
              let used := if r.has o.id then r.givenIds else r.givenIds ++ [o.id]
              .error (.mistake { problem := .unexpectedValue v o.display,
                                 usage := some (l.usageFor pal used), helpPointer := l.helpPointer })
        match step with
        | .error s => .error s
        | .ok r => readWords l p pal { r with awaiting := if value.isNone then r.awaiting else none } rest
    else if !r.afterSeparator && word.startsWith "-" && word.length > 1 then
      match l.readShorts pal word { r with awaiting := none } (word.toList.drop 1) with
      | .error s => .error s
      | .ok r => readWords l p pal r rest
    else if !r.afterSeparator && r.awaiting.isSome then
      let r := match r.pending with
        | some pend => { r with pending := some { pend with values := pend.values ++ [word] } }
        | none => r
      readWords l p pal { r with awaiting := none } rest
    else
      match l.readPositional pal r word with
      | .error s => .error s
      | .ok r => readWords l p pal r rest

/-- Finishes a level: records the pending values. -/
def finish (l : Level) (pal : Palette) (r : Reading) : Except Stop Reading := l.settle pal r

/-- The help asked for by `help` followed by subcommand names: each name must be a subcommand
of the level named before it. -/
def helpFor (p : Program) (pal : Palette) : Level → List String → Stop
  | l, [] => .help l true
  | l, name :: rest =>
    match (if l.isSubcommand name then p.levelOf? name else none) with
    | some sub => helpFor p pal sub rest
    | none => .mistake { problem := .unrecognizedSubcommand name, usage := some (l.helpUsage pal),
                         helpPointer := l.helpPointer }

end Level

namespace Program

/-- Reads a command line. -/
def parse (p : Program) (words : List String) : Except Stop Parsed := do
  let pal := p.palette
  let root := p.rootLevel
  let (r, sub) ← root.readWords p pal {} words
  match sub with
  | some ("help", rest) => .error (Level.helpFor p pal root rest)
  | some (name, rest) =>
    let level := (p.levelOf? name).getD root
    let (sr, next) ← level.readWords p pal {} rest
    let sr ← match next with
      | some (word, _) => .error (level.strayWord pal sr word)
      | none => level.finish pal sr
    let r ← root.finish pal r
    pure ⟨r.given, some (name, sr.given)⟩
  | none =>
    let r ← root.finish pal r
    if r.given.isEmpty then .error (.helpForNothing root)
    else
      .error (.mistake { problem := .missingSubcommand root.usageName (root.subcommands.map Prod.fst),
                         usage := some (root.helpUsage pal), helpPointer := root.helpPointer })

end Program

/-- The values given for an argument: the subcommand's when it was given there, else the
program's. -/
def Parsed.values (p : Parsed) (id : String) : List String :=
  let fromSub := p.subcommand.bind fun (_, given) => given.lookup id
  (fromSub.orElse fun _ => p.root.lookup id).getD []

/-- The last value given for an argument. -/
def Parsed.value? (p : Parsed) (id : String) : Option String := (p.values id).getLast?

/-- Whether a switch was given. -/
def Parsed.flag (p : Parsed) (id : String) : Bool := !(p.values id).isEmpty

end Metamodel.Command

import Metamodel.Name

/-!
Diagnostics: what a scan, a build or an emission reports about classes and files.

A diagnostic has a severity, an error kind (errors only), the class and member it is about
(none for a problem with a whole file) and a message. A located message starts with the
location in backticks, `crate::Book` or `crate::Book.shelf`; a file message starts with the
file name. Displayed, a diagnostic reads `warning: message`, or `error[Kind]: message` for
an error.
-/

namespace Metamodel

/-- How serious a diagnostic is; ordered from note to error. -/
inductive Severity where
  | note
  | warning
  | error
deriving DecidableEq, Repr, Inhabited

namespace Severity

/-- The severity in words, as displayed. -/
def text : Severity → String
  | .note => "note"
  | .warning => "warning"
  | .error => "error"

/-- The severity's name in JSON. -/
def jsonName : Severity → String
  | .note => "Note"
  | .warning => "Warning"
  | .error => "Error"

end Severity

/-- The kinds of modelling error. -/
inductive ErrorKind where
  | ambiguousIdentifier
  | missingIdentifier
  | unresolvedReference
  | conflictingMarkers
  | nameCollision
  | invalidMarker
  | inheritanceCycle
  | genericMappedType
deriving DecidableEq, Repr, Inhabited

namespace ErrorKind

/-- The kind's name, as displayed and in JSON. -/
def name : ErrorKind → String
  | .ambiguousIdentifier => "AmbiguousIdentifier"
  | .missingIdentifier => "MissingIdentifier"
  | .unresolvedReference => "UnresolvedReference"
  | .conflictingMarkers => "ConflictingMarkers"
  | .nameCollision => "NameCollision"
  | .invalidMarker => "InvalidMarker"
  | .inheritanceCycle => "InheritanceCycle"
  | .genericMappedType => "GenericMappedType"

/-- Position in declaration order, which is the order kinds are counted in. -/
def rank : ErrorKind → Nat
  | .ambiguousIdentifier => 0
  | .missingIdentifier => 1
  | .unresolvedReference => 2
  | .conflictingMarkers => 3
  | .nameCollision => 4
  | .invalidMarker => 5
  | .inheritanceCycle => 6
  | .genericMappedType => 7

end ErrorKind

/-- The location of a class or one of its members, in backticks. -/
def location (owner : QualifiedName) (member : Option String) : String :=
  match member with
  | some m => "`" ++ owner.text ++ "." ++ m ++ "`"
  | none => "`" ++ owner.text ++ "`"

/-- A message about a class, one of its members, or a file. -/
structure Diagnostic where
  severity : Severity
  kind : Option ErrorKind := none
  owner : Option QualifiedName := none
  member : Option String := none
  message : String
deriving DecidableEq, Repr, Inhabited

namespace Diagnostic

/-- A diagnostic located at a class or member: the message starts with the location. -/
def located (severity : Severity) (owner : QualifiedName) (member : Option String)
    (detail : String) : Diagnostic :=
  { severity := severity, owner := some owner, member := member,
    message := location owner member ++ ": " ++ detail }

/-- A warning about a class or member. -/
def warning (owner : QualifiedName) (member : Option String) (detail : String) : Diagnostic :=
  located .warning owner member detail

/-- A note about a class or member. -/
def note (owner : QualifiedName) (member : Option String) (detail : String) : Diagnostic :=
  located .note owner member detail

/-- A warning about a source file rather than a class. -/
def fileWarning (file detail : String) : Diagnostic :=
  { severity := .warning, message := file ++ ": " ++ detail }

/-- Whether the diagnostic is an error. -/
def isError (d : Diagnostic) : Bool := d.severity == .error

/-- The displayed text: `warning: …`, or `error[Kind]: …` for an error. -/
def text (d : Diagnostic) : String :=
  match d.kind with
  | some kind => d.severity.text ++ "[" ++ kind.name ++ "]: " ++ d.message
  | none => d.severity.text ++ ": " ++ d.message

end Diagnostic

end Metamodel

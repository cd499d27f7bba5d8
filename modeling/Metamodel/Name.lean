import Metamodel.Text.Case
import Metamodel.Text.Split

/-!
Names of mapped classes and the names derived from them for generated code.

A qualified name such as `crate::library::Book` is the identity of a class within one batch.
Its segments are separated by `::`; the simple name is the text after the last separator and
the module path the text before it. Generated accessors are named `BookModel` in the module
`book_model`, and accessors of embedded values `AddressPath`.
-/

namespace Metamodel

/-- The fully qualified path of a mapped class. Ordered as its text. -/
structure QualifiedName where
  text : String
deriving DecidableEq, Hashable, Repr, Inhabited

namespace QualifiedName

instance : Ord QualifiedName := ⟨fun a b => compare a.text b.text⟩

instance : LT QualifiedName := ⟨fun a b => a.text < b.text⟩

instance (a b : QualifiedName) : Decidable (a < b) :=
  inferInstanceAs (Decidable (a.text < b.text))

instance : ToString QualifiedName := ⟨QualifiedName.text⟩

/-- Joins a module path and a type name; an empty module path leaves the bare name. -/
def join (modulePath name : String) : QualifiedName :=
  if modulePath.isEmpty then ⟨name⟩ else ⟨modulePath ++ "::" ++ name⟩

/-- The text after the last `::`, or the whole name. -/
def simpleName (name : QualifiedName) : String :=
  match Text.lastOccurrence "::" name.text with
  | some start => Text.after name.text (start + 2)
  | none => name.text

/-- The text before the last `::`; empty for a bare name. -/
def modulePath (name : QualifiedName) : String :=
  match Text.lastOccurrence "::" name.text with
  | some start => Text.before name.text start
  | none => ""

/-- The `::`-separated segments, from the left. -/
def segments (name : QualifiedName) : List String :=
  Text.pieces "::" name.text

/-- Whether `suffix` names the trailing segments of this name. -/
def endsWithSegments (name : QualifiedName) (suffix : List String) : Bool :=
  let segs := name.segments
  suffix.length ≤ segs.length && segs.drop (segs.length - suffix.length) == suffix

end QualifiedName

/-- Snake case of a camel-case name: an underscore goes before an uppercase letter that
follows a lowercase letter or an ASCII digit, or that follows an uppercase letter and is
followed by a lowercase one, unless the text written so far already ends with an
underscore; uppercase letters are lowered. Runs of capitals stay together, so `HTTPServer`
becomes `http_server`. -/
def snakeCaseChars : Option Char → List Char → List Char → List Char
  | _, [], acc => acc.reverse
  | prev, c :: rest, acc =>
    if Text.isUpper c then
      let boundary :=
        match prev with
        | some p =>
          if Text.isLower p || Text.isAsciiDigit p then true
          else if Text.isUpper p then
            match rest with
            | n :: _ => Text.isLower n
            | [] => false
          else false
        | none => false
      let acc := if boundary && acc.head? != some '_' then '_' :: acc else acc
      snakeCaseChars (some c) rest ((Text.toLower c).reverse ++ acc)
    else
      snakeCaseChars (some c) rest (c :: acc)

/-- Snake case of a name; see `snakeCaseChars`. -/
def snakeCase (name : String) : String :=
  String.ofList (snakeCaseChars none name.toList [])

/-- Pascal case of a snake-case name: the non-empty parts between underscores, each with its
first character uppercased, concatenated. -/
def pascalCase (name : String) : String :=
  let parts := (Text.pieces "_" name).filter (fun part => !part.isEmpty)
  String.join <| parts.map fun part =>
    match part.toList with
    | [] => ""
    | first :: rest => String.ofList (Text.toUpper first ++ rest)

/-- Accessor type of a generation root: `Book` becomes `BookModel`. -/
def accessorName (simpleName : String) : String :=
  simpleName ++ "Model"

/-- Module of a generation root: `Book` becomes `book_model`. -/
def moduleName (simpleName : String) : String :=
  snakeCase simpleName ++ "_model"

/-- Accessor type of an embedded value: `Address` becomes `AddressPath`. -/
def embeddableAccessorName (simpleName : String) : String :=
  simpleName ++ "Path"

end Metamodel

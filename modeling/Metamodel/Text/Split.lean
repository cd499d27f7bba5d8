/-!
Cutting text at a separator. `pieces sep s` cuts `s` at every occurrence of `sep`, scanning
from the left and never letting two occurrences overlap; empty pieces are kept, so `k`
occurrences give `k + 1` pieces and joining the pieces with `sep` gives `s` back.
-/

namespace Metamodel.Text

/-- Cuts a character list at the non-overlapping occurrences of a non-empty separator
`first :: more`, scanning from the left. `current` holds the piece read so far, reversed. -/
def cutChars (first : Char) (more : List Char) (current : List Char) :
    List Char → List (List Char)
  | [] => [current.reverse]
  | c :: rest =>
    if (first :: more).isPrefixOf (c :: rest) then
      current.reverse :: cutChars first more [] ((c :: rest).drop (more.length + 1))
    else
      cutChars first more (c :: current) rest
termination_by input => input.length
decreasing_by
  all_goals simp_wf
  all_goals omega

/-- The pieces of `text` between the occurrences of `sep`, from the left. An empty separator
leaves the text whole. -/
def pieces (sep text : String) : List String :=
  match sep.toList with
  | [] => [text]
  | first :: more => (cutChars first more [] text.toList).map String.ofList

/-- Start, counted in characters, of the last occurrence of `sep` in `text`. -/
def lastOccurrence (sep text : String) : Option Nat :=
  let chars := text.toList
  let needle := sep.toList
  (List.range (chars.length + 1)).reverse.find? fun start =>
    needle.isPrefixOf (chars.drop start)

/-- The characters of `text` before position `n`. -/
def before (text : String) (n : Nat) : String :=
  String.ofList (text.toList.take n)

/-- The characters of `text` from position `n` on. -/
def after (text : String) (n : Nat) : String :=
  String.ofList (text.toList.drop n)

/-- Joins texts with a separator between neighbours. -/
def joinWith (sep : String) : List String → String
  | [] => ""
  | first :: rest => rest.foldl (fun acc piece => acc ++ sep ++ piece) first

/-- Removes one leading occurrence of `pre`, if the text starts with it. -/
def dropPrefix? (pre text : String) : Option String :=
  if pre.toList.isPrefixOf text.toList then
    some (after text pre.length)
  else
    none

/-- Whether `part` occurs in the characters `cs`. -/
def occursIn (part : List Char) : List Char → Bool
  | [] => part.isEmpty
  | c :: rest => part.isPrefixOf (c :: rest) || occursIn part rest

/-- Whether `part` occurs in `text`. -/
def contains (text part : String) : Bool := occursIn part.toList text.toList

end Metamodel.Text

import Metamodel.Decimal.Nearest

/-!
How alike two words are, by the Jaro similarity.

Two characters match when they are equal, the second not yet matched, and their positions
differ by less than half the longer word's length (one less than half, at least zero). With
`m` matches, `t` half the number of matched characters that stand in another order in the two
words, and lengths `a` and `b`, the similarity is `(m/a + m/b + (m - t)/m) / 3`; it is 1 for
two empty words and 0 when nothing matches.

The similarity is computed in binary64 floating point, one rounding to nearest after each
division and each addition, from left to right; the threshold is the float nearest to
`7/10`. A similarity is kept as the exact fraction that its float stands for, so that
comparing two of them, or one with the threshold, is exact.
-/

namespace Metamodel.Text

/-- A similarity as a fraction `numerator / denominator`; the denominator is positive. -/
structure Similarity where
  numerator : Nat
  denominator : Nat
deriving Inhabited

/-- Whether a similarity is below or equal to another. -/
def Similarity.le (x y : Similarity) : Bool :=
  x.numerator * y.denominator ≤ y.numerator * x.denominator

/-- The value of the float nearest to `num / den` (`den > 0`), as a similarity. -/
def Similarity.rounded (num den : Nat) : Similarity :=
  let r := Decimal.bitsValue ((Decimal.nearestBits num den).getD 0)
  ⟨r.num, r.den⟩

/-- The sum of two similarities, rounded to the nearest float. -/
def Similarity.add (x y : Similarity) : Similarity :=
  .rounded (x.numerator * y.denominator + y.numerator * x.denominator) (x.denominator * y.denominator)

/-- A similarity divided by a positive count, rounded to the nearest float. -/
def Similarity.divide (x : Similarity) (n : Nat) : Similarity :=
  .rounded x.numerator (x.denominator * n)

/-- Whether a similarity exceeds the float nearest to `num / den`. -/
def Similarity.exceeds (x : Similarity) (num den : Nat) : Bool :=
  !x.le (.rounded num den)

/-- Marks, for each character of `a` in order, the position in `b` it matches, if any; `used`
holds the positions of `b` already matched, `i` the position of the first character of `a`. -/
def matchPositions (b : List Char) (window : Nat) :
    Nat → List Char → List Nat → List (Option Nat)
  | _, [], _ => []
  | i, c :: rest, used =>
    let low := i - window
    let high := min b.length (i + window + 1)
    let found := (List.range high).find? fun j =>
      low ≤ j && b[j]? == some c && !used.contains j
    match found with
    | some j => some j :: matchPositions b window (i + 1) rest (j :: used)
    | none => none :: matchPositions b window (i + 1) rest used

/-- The Jaro similarity of two words, compared character by character. -/
def jaro (x y : String) : Similarity :=
  let a := x.toList
  let b := y.toList
  if a.isEmpty && b.isEmpty then ⟨1, 1⟩
  else if a.isEmpty || b.isEmpty then ⟨0, 1⟩
  else
    let window := max a.length b.length / 2 - 1
    let positions := matchPositions b window 0 a []
    let matchedA := (a.zip positions).filterMap fun (c, p) => p.map fun _ => c
    let usedB := positions.filterMap id
    let matchedB := ((List.range b.length).filter usedB.contains).filterMap fun j => b[j]?
    let m := matchedA.length
    let t := ((matchedA.zip matchedB).filter fun (p, q) => p != q).length / 2
    if m == 0 then ⟨0, 1⟩
    else
      ((Similarity.rounded m a.length).add (.rounded m b.length)).add (.rounded (m - t) m)
        |>.divide 3

/-- The candidates more than 70% alike to a word, from the least alike to the most; candidates
equally alike keep their order. -/
def similarCandidates (word : String) (candidates : List String) : List String :=
  let scored := candidates.filterMap fun c =>
    let s := jaro word c
    if s.exceeds 7 10 then some (s, c) else none
  (scored.mergeSort fun p q => p.1.le q.1).map Prod.snd

end Metamodel.Text

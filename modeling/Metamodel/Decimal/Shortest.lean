/-!
The shortest decimal that reads back as a given binary64 float.

A finite float is `m · 2^e`. Every real strictly between the midpoints to its two
neighbours rounds to it, and so do the midpoints themselves when `m` is even. For 1, 2, …
significant digits in turn, the two multiples of the decimal grid around the value are
tried; the first grid with a multiple in that interval gives the digits, the nearer of two
such multiples winning and an exact tie going to the even one. All arithmetic is exact,
on natural numbers.
-/

namespace Metamodel.Decimal

/-- A positive rational `num / den` with `den > 0`. -/
structure Ratio where
  num : Nat
  den : Nat

/-- `a ≤ b` on rationals, by cross multiplication. -/
def Ratio.le (a b : Ratio) : Bool := a.num * b.den ≤ b.num * a.den

/-- `a < b` on rationals, by cross multiplication. -/
def Ratio.lt (a b : Ratio) : Bool := a.num * b.den < b.num * a.den

/-- `x · 2^e` as a rational. -/
def Ratio.ofBinary (x : Nat) (e : Int) : Ratio :=
  if 0 ≤ e then ⟨x * Nat.pow 2 e.toNat, 1⟩ else ⟨x, Nat.pow 2 (-e).toNat⟩

/-- `c · 10^k` as a rational. -/
def Ratio.ofDecimal (c : Nat) (k : Int) : Ratio :=
  if 0 ≤ k then ⟨c * Nat.pow 10 k.toNat, 1⟩ else ⟨c, Nat.pow 10 (-k).toNat⟩

/-- A finite positive float as `mantissa · 2^exponent`, with whether the gap to the next
smaller float is half the gap to the next larger one (the mantissa is a power of two). -/
structure Binary where
  mantissa : Nat
  exponent : Int
  narrowBelow : Bool

/-- A float's sign, and its magnitude unless it is zero, infinite or not a number. -/
inductive Magnitude where
  | zero
  | finite (value : Binary)
  | infinite
  | notANumber

/-- Splits the 64 bits of a binary64 float into its sign and its magnitude. -/
def decompose (bits : UInt64) : Bool × Magnitude :=
  let negative := bits >>> 63 == 1
  let biased := ((bits >>> 52) &&& 0x7FF).toNat
  let fraction := (bits &&& 0xFFFFFFFFFFFFF).toNat
  if biased == 0x7FF then
    (negative, if fraction == 0 then .infinite else .notANumber)
  else if biased == 0 then
    (negative, if fraction == 0 then .zero else .finite ⟨fraction, -1074, false⟩)
  else
    (negative, .finite ⟨fraction + Nat.pow 2 52, (biased : Int) - 1075, fraction == 0 && biased > 1⟩)

/-- Significant digits and the power of ten of the last one: `digits · 10^exponent`. -/
structure Digits where
  digits : Nat
  exponent : Int

namespace Binary

/-- The value itself. -/
def value (b : Binary) : Ratio := Ratio.ofBinary (4 * b.mantissa) (b.exponent - 2)

/-- The lower end of the interval of reals that round to the value. -/
def lower (b : Binary) : Ratio :=
  Ratio.ofBinary (4 * b.mantissa - (if b.narrowBelow then 1 else 2)) (b.exponent - 2)

/-- The upper end of the interval of reals that round to the value. -/
def upper (b : Binary) : Ratio := Ratio.ofBinary (4 * b.mantissa + 2) (b.exponent - 2)

/-- Whether `c · 10^k` rounds to the value; the ends count when the mantissa is even. -/
def readsBack (b : Binary) (c : Nat) (k : Int) : Bool :=
  let x := Ratio.ofDecimal c k
  if b.mantissa % 2 == 0 then b.lower.le x && x.le b.upper
  else b.lower.lt x && x.lt b.upper

/-- Whether `10^p ≤ value`. -/
def atLeastPower (b : Binary) (p : Int) : Bool :=
  (Ratio.ofDecimal 1 p).le b.value

/-- Moves a guess `p` of the decimal exponent to the exact `⌊log₁₀ value⌋`. -/
def fixExponent (b : Binary) : Nat → Int → Int
  | 0, p => p
  | fuel + 1, p =>
    if !b.atLeastPower p then fixExponent b fuel (p - 1)
    else if b.atLeastPower (p + 1) then fixExponent b fuel (p + 1)
    else p

/-- The decimal exponent of the leading digit: `10^p ≤ value < 10^(p+1)`. -/
def leadingExponent (b : Binary) : Int :=
  let bits : Int := b.exponent + Nat.log2 b.mantissa
  fixExponent b 8 ((bits * 30103).fdiv 100000)

/-- The multiples of `10^k` just below and just above the value (one when it is on the
grid). -/
def gridNeighbours (b : Binary) (k : Int) : Nat × Option Nat :=
  let v := b.value
  let x := Ratio.ofDecimal 1 k
  let num := v.num * x.den
  let den := v.den * x.num
  (num / den, if num % den == 0 then none else some (num / den + 1))

/-- The nearer to the value of two grid points `c` and `c + 1`, the even one on a tie. -/
def nearer (b : Binary) (k : Int) (c : Nat) : Nat :=
  let v := b.value
  let low := Ratio.ofDecimal c k
  let high := Ratio.ofDecimal (c + 1) k
  -- both grid points share the denominator 10^(-k), so the two distances compare as
  -- numerators over `v.den * low.den`
  let below := v.num * low.den - low.num * v.den
  let above := high.num * v.den - v.num * high.den
  if below < above then c else if above < below then c + 1
  else if c % 2 == 0 then c else c + 1

/-- The digits on the grid `10^k` that read back, if there are any. -/
def onGrid (b : Binary) (k : Int) : Option Nat :=
  match b.gridNeighbours k with
  | (c, none) => if b.readsBack c k then some c else none
  | (c, some d) =>
    match b.readsBack c k, b.readsBack d k with
    | true, true => some (b.nearer k c)
    | true, false => some c
    | false, true => some d
    | false, false => none

/-- Tries `n, n + 1, …` significant digits, at most `fuel` of them. -/
def search (b : Binary) (p : Int) : Nat → Nat → Option Digits
  | 0, _ => none
  | fuel + 1, n =>
    let k := p - n + 1
    match b.onGrid k with
    | some c => some ⟨c, k⟩
    | none => search b p fuel (n + 1)

end Binary

/-- Removes trailing zero digits, raising the exponent. -/
def Digits.trim : Nat → Digits → Digits
  | 0, d => d
  | fuel + 1, d =>
    if d.digits != 0 && d.digits % 10 == 0 then Digits.trim fuel ⟨d.digits / 10, d.exponent + 1⟩
    else d

/-- The shortest digits that read back as the value, without trailing zeros. -/
def shortest (b : Binary) : Digits :=
  let p := b.leadingExponent
  match b.search p 17 1 with
  | some d => Digits.trim 20 d
  | none => Digits.trim 20 ⟨b.mantissa, 0⟩

end Metamodel.Decimal

import Metamodel.Decimal.Shortest

/-!
The binary64 float nearest to a non-negative rational, an exact tie going to the even
mantissa, and the product and quotient of two floats rounded the same way.

The value `num / den` is cut at the binary exponent `e` of its last kept bit: `e` is 52
below the leading bit, but never below `-1074`, where the subnormal floats end. The quotient
`⌊num / (den · 2^e)⌋` is then rounded on its remainder. A carry into bit 53 moves the
exponent up by one; an exponent past `971` is beyond the largest finite float.

`fromParts` reads a decimal significand and exponent the way a fast JSON reader does:
the significand is rounded to a float, and then multiplied or divided by the float nearest
to the power of ten, so two roundings stand between the decimal and the result.
-/

namespace Metamodel.Decimal

/-- `2^e` as a rational. -/
def Ratio.twoPow (e : Int) : Ratio := Ratio.ofBinary 1 e

/-- The exponent `t` with `2^t ≤ num / den < 2^(t+1)`, for positive `num` and `den`. The
difference of the two bit lengths is `t` or `t + 1`. -/
def floorLog2 (num den : Nat) : Int :=
  let t : Int := (Nat.log2 num : Int) - Nat.log2 den
  if Ratio.lt ⟨num, den⟩ (Ratio.twoPow t) then t - 1 else t

/-- The bits of the binary64 float nearest to `num / den` (`den > 0`), a tie going to the
even mantissa; `none` when the nearest is beyond the largest finite float. -/
def nearestBits (num den : Nat) : Option UInt64 :=
  if num == 0 then some 0 else
  let e : Int := max (-1074) (floorLog2 num den - 52)
  let n := if 0 ≤ e then num else num * Nat.pow 2 (-e).toNat
  let d := if 0 ≤ e then den * Nat.pow 2 e.toNat else den
  let q := n / d
  let r := n % d
  let q := if 2 * r > d || (2 * r == d && q % 2 == 1) then q + 1 else q
  let (q, e) := if q == Nat.pow 2 53 then (Nat.pow 2 52, e + 1) else (q, e)
  if e > 971 then none
  else if q < Nat.pow 2 52 then some (UInt64.ofNat q)
  else some (UInt64.ofNat (((e + 1075).toNat <<< 52) + (q - Nat.pow 2 52)))

/-- A finite non-negative float as a rational, from its bits. -/
def bitsValue (bits : UInt64) : Ratio :=
  match (decompose bits).2 with
  | .finite b => Ratio.ofBinary b.mantissa b.exponent
  | _ => ⟨0, 1⟩

/-- The product of two finite non-negative floats, rounded to nearest; `none` past the
largest float. -/
def mulBits (a b : UInt64) : Option UInt64 :=
  let x := bitsValue a
  let y := bitsValue b
  nearestBits (x.num * y.num) (x.den * y.den)

/-- The quotient of two finite non-negative floats, the divisor not zero, rounded to
nearest. -/
def divBits (a b : UInt64) : Option UInt64 :=
  let x := bitsValue a
  let y := bitsValue b
  nearestBits (x.num * y.den) (x.den * y.num)

/-- The float nearest to `10^k`. -/
def powerOfTenBits (k : Nat) : UInt64 := (nearestBits (Nat.pow 10 k) 1).getD 0

/-- The largest power of ten that the reader multiplies or divides by in one step. -/
def maxPowerStep : Nat := 308

/-- The steps of `fromParts`: while the exponent is beyond `maxPowerStep` the value is
divided by `10^308` (a zero is done, a large exponent is out of range); otherwise one
multiplication or division ends it. -/
def scaleBits : Nat → UInt64 → Int → Option UInt64
  | 0, f, _ => some f
  | fuel + 1, f, e =>
    if e.natAbs ≤ maxPowerStep then
      if 0 ≤ e then mulBits f (powerOfTenBits e.toNat)
      else divBits f (powerOfTenBits e.natAbs)
    else if f == 0 then some 0
    else if 0 ≤ e then none
    else match divBits f (powerOfTenBits maxPowerStep) with
      | some g => scaleBits fuel g (e + maxPowerStep)
      | none => none

/-- The float that a fast reader makes of `significand · 10^exponent` (a significand below
`2^64`): the significand rounded, then scaled by powers of ten with one rounding each;
`none` when the result is out of range. Two divisions by `10^308` take any such significand
below the least float, so four steps always end the scaling. -/
def fromParts (negative : Bool) (significand : Nat) (exponent : Int) : Option Float :=
  match nearestBits significand 1 with
  | none => none
  | some f =>
    match scaleBits 4 f exponent with
    | none => none
    | some bits => some (Float.ofBits (if negative then bits ||| 0x8000000000000000 else bits))

end Metamodel.Decimal

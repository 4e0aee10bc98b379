/-!
# Binary64 numbers as words

A `Double` is the 64-bit word of a finite binary64 number.  Its magnitude is the rational
`mantissa * 2 ^ exponent`, and everything here is computed exactly on that rational and rounded
once: `roundRatio` is the nearest binary64 magnitude of a quotient of naturals, ties to the even
mantissa, and `Double.mul` and `Double.div` are the exact product and quotient, rounded by it.

Nothing goes through machine floating point, so the kernel can evaluate every definition and the
statements about them are statements about natural numbers.
-/

namespace Parley

/-- A finite binary64 number, held as its word: sign, eleven exponent bits, fifty-two fraction
bits. -/
structure Double where
  bits : UInt64
deriving DecidableEq, Repr, Inhabited

/-- The word of the nearest binary64 magnitude of `num / den`, a tie going to the even mantissa;
`none` when that magnitude is past the largest finite one.  The least exponent is `-1074`. -/
def roundRatio (num den : Nat) : Option UInt64 :=
  if num = 0 then some 0
  else
    let rough : Int := (num.log2 : Int) - (den.log2 : Int) - 53
    let scaled (e : Int) : Nat × Nat := (num * Nat.pow 2 (-e).toNat, den * Nat.pow 2 e.toNat)
    let e₀ : Int := max rough (-1074)
    let (n₀, d₀) := scaled e₀
    let e : Int := if n₀ / d₀ < Nat.pow 2 53 then e₀ else e₀ + 1
    let (n, d) := scaled e
    let q := n / d
    let r := n % d
    let m := if 2 * r < d then q else if d < 2 * r then q + 1 else q + q % 2
    let word := if m < Nat.pow 2 52 then m else (e + 1075).toNat * Nat.pow 2 52 + (m - Nat.pow 2 52)
    if word < 2047 * Nat.pow 2 52 then some word.toUInt64 else none

namespace Double

/-- The number zero, with a sign. -/
def zero (negative : Bool) : Double := ⟨if negative then 0x8000000000000000 else 0⟩

/-- The sign bit. -/
def negative (x : Double) : Bool := x.bits &&& 0x8000000000000000 != 0

/-- The word without its sign bit. -/
def magnitudeBits (x : Double) : UInt64 := x.bits &&& 0x7FFFFFFFFFFFFFFF

/-- Both zeros are zero. -/
def isZero (x : Double) : Bool := x.magnitudeBits == 0

/-- The same magnitude with a chosen sign. -/
def withSign (negative : Bool) (x : Double) : Double :=
  ⟨if negative then x.magnitudeBits ||| 0x8000000000000000 else x.magnitudeBits⟩

/-- The eleven exponent bits. -/
def exponentField (x : Double) : Nat := ((x.bits >>> 52) &&& 0x7FF).toNat

/-- The fifty-two fraction bits. -/
def fractionField (x : Double) : Nat := (x.bits &&& 0xFFFFFFFFFFFFF).toNat

/-- The magnitude is `mantissa * 2 ^ exponent`. -/
def mantissa (x : Double) : Nat :=
  if x.exponentField = 0 then x.fractionField else Nat.pow 2 52 + x.fractionField

@[inherit_doc mantissa]
def exponent (x : Double) : Int :=
  if x.exponentField = 0 then -1074 else (x.exponentField : Int) - 1075

/-- The magnitude as a quotient of naturals. -/
def ratio (x : Double) : Nat × Nat :=
  (x.mantissa * Nat.pow 2 x.exponent.toNat, Nat.pow 2 (-x.exponent).toNat)

/-- The nearest number to a natural. -/
def ofNat? (n : Nat) : Option Double := (roundRatio n 1).map Double.mk

/-- The product of two magnitudes, rounded; `none` when it is too large. -/
def mul (x y : Double) : Option Double :=
  (roundRatio (x.ratio.1 * y.ratio.1) (x.ratio.2 * y.ratio.2)).map Double.mk

/-- The quotient of two magnitudes, rounded; `none` when it is too large or the divisor is
zero. -/
def div (x y : Double) : Option Double :=
  if y.isZero then none
  else (roundRatio (x.ratio.1 * y.ratio.2) (x.ratio.2 * y.ratio.1)).map Double.mk

/-- Numeric equality: the two zeros are one number, all other numbers have one word. -/
def same (x y : Double) : Bool := x.bits == y.bits || (x.isZero && y.isZero)

end Double

end Parley

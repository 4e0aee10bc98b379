import Parley.Number.Double

/-!
# The fewest digits that read back

A binary64 number stands for every real that rounds to it: an interval around it, from halfway to
the neighbour below to halfway to the neighbour above, with its ends exactly when the mantissa is
even.  `Double.shortest` selects the decimal in that interval with the fewest digits; of two with
equally few the one closer to the number, and of two equally close the one with an even last
digit.

The search tries grids of one, two, … seventeen digits.  On each grid only the two neighbours of
the number can be the closest, so only they are tested.  `Decimal` is what is selected; how it is
laid out is for the format that writes it.
-/

namespace Parley

/-- The number `digits * 10 ^ exponent`. -/
structure Decimal where
  digits : Nat
  exponent : Int
deriving DecidableEq, Repr

namespace Decimal

/-- Compare `a * 10 ^ i` with `n * 2 ^ j`, exactly. -/
def compareScaled (a : Nat) (i : Int) (n : Nat) (j : Int) : Ordering :=
  compare (a * Nat.pow 10 i.toNat * Nat.pow 2 (-j).toNat)
    (n * Nat.pow 2 j.toNat * Nat.pow 10 (-i).toNat)

/-- Move zeros at the end of the digits into the exponent. -/
def strip (d : Decimal) : Decimal :=
  go 20 d.digits d.exponent
where
  go : Nat → Nat → Int → Decimal
    | 0, n, e => ⟨n, e⟩
    | k + 1, n, e => if n % 10 = 0 && n ≠ 0 then go k (n / 10) (e + 1) else ⟨n, e⟩

end Decimal

namespace Double

/-- A decimal lies among the reals that round to `x`. -/
def roundsFrom (x : Double) (d : Decimal) : Bool :=
  let narrowBelow := x.fractionField = 0 && 1 < x.exponentField
  let below := if narrowBelow then 4 * x.mantissa - 1 else 4 * x.mantissa - 2
  let above := 4 * x.mantissa + 2
  let ends := x.mantissa % 2 = 0
  let low := Decimal.compareScaled d.digits d.exponent below (x.exponent - 2)
  let high := Decimal.compareScaled d.digits d.exponent above (x.exponent - 2)
  (low = .gt || (ends && low = .eq)) && (high = .lt || (ends && high = .eq))

/-- The least `k` with the magnitude of `x` below `10 ^ k`, found from an estimate that is at most
two too small. -/
def scale (x : Double) : Int :=
  let bits : Int := (x.mantissa.log2 : Int) + x.exponent
  let guess : Int := bits * 30103 / 100000 - 1
  let isBelow (k : Int) : Bool := Decimal.compareScaled 1 k x.mantissa x.exponent = .gt
  if isBelow guess then guess
  else if isBelow (guess + 1) then guess + 1
  else if isBelow (guess + 2) then guess + 2
  else guess + 3

/-- The candidate on the grid of `n` digits: the neighbour of `x` on it that rounds to `x`, the
closer one if both do. -/
def onGrid? (x : Double) (n : Nat) : Option Decimal :=
  let e : Int := x.scale - n
  let (num, den) := x.ratio
  let a := num * Nat.pow 10 (-e).toNat / (den * Nat.pow 10 e.toNat)
  let lower : Decimal := ⟨a, e⟩
  let upper : Decimal := ⟨a + 1, e⟩
  match x.roundsFrom lower, x.roundsFrom upper with
  | true, true =>
    match Decimal.compareScaled (2 * a + 1) e (2 * x.mantissa) x.exponent with
    | .gt => some lower
    | .lt => some upper
    | .eq => some (if a % 2 = 0 then lower else upper)
  | true, false => some lower
  | false, true => some upper
  | false, false => none

/-- The exact decimal value of the magnitude. -/
def exact (x : Double) : Decimal :=
  if 0 ≤ x.exponent then ⟨x.mantissa * Nat.pow 2 x.exponent.toNat, 0⟩
  else ⟨x.mantissa * Nat.pow 5 (-x.exponent).toNat, x.exponent⟩

/-- The decimal of fewest digits that rounds to the magnitude of `x`; zero is written as zero. -/
def shortest (x : Double) : Decimal :=
  if x.isZero then ⟨0, 0⟩
  else (((List.range 17).findSome? fun n => x.onGrid? (n + 1)).getD x.exact).strip

end Double

end Parley

import Parley.Number.Shortest

/-!
# JSON numbers

A number is an integer or a binary64 number, and the two are never equal: `1` is not `1.0`.
A literal without fraction and exponent is an integer when it lies in `-2^63 … 2^64 - 1`; every
other literal, and `-0`, is a double.

`Literal` is a number literal taken apart, and `Literal.number?` its value.  Doubles are read in
two steps: the digits are gathered into a 64-bit significand, as many as fit, and the significand
is multiplied or divided once by a power of ten, itself a double.  The result may differ from the
nearest double in its last bit, and every reader of the same texts has to differ alike.  A literal
too large for a double has no value.

`Number.chars` writes a number.  A double is written with the fewest digits that read back,
positionally from `0.00001` up to below `10^16` and always with a fraction, otherwise with one
digit before the point and an exponent that carries its sign.
-/

namespace Parley

namespace Json

/-- An integer of 64 bits or a double. -/
inductive Number where
  | integer (value : Int)
  | double (value : Double)
deriving DecidableEq, Repr, Inhabited

/-- A number literal: sign, digits before the point, digits after it, and the exponent with its
sign.  Only a literal with a point has digits after it. -/
structure Literal where
  negative : Bool
  whole : List Nat
  fraction : List Nat
  exponent : Option (Bool × List Nat)
deriving DecidableEq, Repr

namespace Number

/-- The bound of 64-bit words. -/
def wordBound : Nat := Nat.pow 2 64

/-- The double nearest to `10 ^ k`, for `k` up to 308. -/
def powerOfTen (k : Nat) : Double := (Double.ofNat? (Nat.pow 10 k)).getD (.zero false)

/-- The largest power of ten that a double holds. -/
def largestPower : Double := powerOfTen 308

/-- A magnitude divided by `10 ^ k`, in steps of at most 308 powers, each rounded. -/
def scaleDown (x : Double) (k : Nat) : Option Double :=
  if k ≤ 308 then x.div (powerOfTen k)
  else if x.isZero then some x
  else (x.div largestPower).bind fun y => scaleDown y (k - 308)
termination_by k

/-- A magnitude times a power of ten.  It has no value when it is too large. -/
def scaleByTen (x : Double) (e : Int) : Option Double :=
  if e < 0 then scaleDown x e.natAbs
  else if e ≤ 308 then x.mul (powerOfTen e.toNat)
  else if x.isZero then some x
  else none

/-- The double of a significand and a power of ten. -/
def ofParts (negative : Bool) (significand : Nat) (e : Int) : Option Number := do
  let x ← Double.ofNat? significand
  let y ← scaleByTen x e
  return .double (y.withSign negative)

/-- Whether a number is not zero. -/
def isNonzero : Number → Bool
  | .integer value => value ≠ 0
  | .double value => !value.isZero

/-- Equality of values; the two zeros among the doubles are equal. -/
def same : Number → Number → Bool
  | .integer a, .integer b => a = b
  | .double a, .double b => a.same b
  | _, _ => false

end Number

namespace Literal

/-- Gather digits into a significand of 64 bits, up to the first digit that does not fit, and
count those left over. -/
def gather (significand : Nat) : List Nat → Nat × Nat
  | [] => (significand, 0)
  | d :: rest =>
    if significand * 10 + d < Number.wordBound then gather (significand * 10 + d) rest
    else (significand, (d :: rest).length)

/-- The number that a list of digits writes. -/
def digitsValue (digits : List Nat) : Nat := digits.foldl (fun n d => n * 10 + d) 0

/-- The largest exponent that is taken at its value. -/
def exponentBound : Nat := Nat.pow 2 31 - 1

/-- The value of a literal, if it has one. -/
def number? (l : Literal) : Option Number :=
  let (significand, dropped) := gather 0 l.whole
  if l.fraction.isEmpty && l.exponent.isNone && dropped = 0 then
    if !l.negative then some (.integer significand)
    else if 0 < significand ∧ significand ≤ Nat.pow 2 63 then some (.integer (-(significand : Int)))
    else Number.ofParts true significand 0
  else
    let (significand, ignored) := gather significand l.fraction
    let start : Int := (dropped : Int) - ((l.fraction.length : Int) - ignored)
    match l.exponent with
    | none => Number.ofParts l.negative significand start
    | some (negativeExponent, digits) =>
      let e := digitsValue digits
      if exponentBound < e then
        if significand ≠ 0 ∧ !negativeExponent then none
        else some (.double (.zero l.negative))
      else Number.ofParts l.negative significand (if negativeExponent then start - e else start + e)

end Literal

namespace Number

/-- The layout of a positive decimal: positional while its leading digit stands for `10^-5` to
`10^15`, with an exponent otherwise. -/
def layout (d : Decimal) : List Char :=
  let digits := Nat.toDigits 10 d.digits
  let lead : Int := (digits.length : Int) - 1 + d.exponent
  if -5 ≤ lead ∧ lead < 16 then
    if 0 ≤ d.exponent then digits ++ List.replicate d.exponent.toNat '0' ++ ['.', '0']
    else if 0 ≤ lead then
      digits.take (lead.toNat + 1) ++ '.' :: digits.drop (lead.toNat + 1)
    else '0' :: '.' :: (List.replicate (-lead - 1).toNat '0' ++ digits)
  else
    let mantissa := match digits with
      | [d] => [d]
      | d :: rest => d :: '.' :: rest
      | [] => []
    mantissa ++ 'e' :: (if lead < 0 then '-' else '+') :: Nat.toDigits 10 lead.natAbs

/-- The text of a double. -/
def doubleChars (x : Double) : List Char :=
  (if x.negative then ['-'] else []) ++
    (if x.isZero then ['0', '.', '0'] else layout x.shortest)

/-- The text of a number. -/
def chars : Number → List Char
  | .integer value =>
    (if value < 0 then ['-'] else []) ++ Nat.toDigits 10 value.natAbs
  | .double value => doubleChars value

end Number

end Json

end Parley

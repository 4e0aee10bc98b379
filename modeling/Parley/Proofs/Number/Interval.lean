import Mathlib.Algebra.Order.Field.Power
import Mathlib.Data.Nat.Bitwise
import Mathlib.Data.Rat.Cast.Order
import Mathlib.Order.Compare
import Mathlib.Order.Monotone.Basic
import Mathlib.Tactic.FieldSimp
import Mathlib.Tactic.Linarith
import Mathlib.Tactic.Positivity
import Mathlib.Tactic.Ring
import Parley.Number.Shortest

/-!
# The decimals that stand for a double

The reals that round to a double form an interval.  In units of `2 ^ -1076`, a quarter of the least
step between doubles, the ends of all intervals are natural numbers, and where the interval of one
magnitude ends that of the next begins (`Magnitude.lowerEnd_succ`).  An end that two intervals share
belongs to the one with the even mantissa.  So every decimal stands for one magnitude at most
(`Double.rank_eq_of_roundsFrom`).

The shortest decimal of a double is found by a search that tests each candidate, and falls back on
the exact value if all of them fail; in either case the decimal stands for the double
(`Double.roundsFrom_shortest`).  Therefore a double is known from the value of its shortest decimal
and its sign (`Double.ext_shortest`).
-/

namespace Parley

/-! ### Decimals by their values -/

namespace Decimal

/-- The number that a decimal writes. -/
def value (d : Decimal) : ℚ := d.digits * 10 ^ d.exponent

theorem zpow_mul_pow_toNat {b : ℚ} (hb : b ≠ 0) (i : ℤ) : b ^ i * b ^ (-i).toNat = b ^ i.toNat := by
  rw [← zpow_natCast, ← zpow_natCast, ← zpow_add₀ hb]
  congr 1
  omega

theorem compareScaled_eq (a n : ℕ) (i j : ℤ) :
    compareScaled a i n j = compare ((a : ℚ) * 10 ^ i) (n * 2 ^ j) := by
  have hten := zpow_mul_pow_toNat (b := 10) (by norm_num) i
  have htwo := zpow_mul_pow_toNat (b := 2) (by norm_num) j
  -- both sides times the powers in the denominators
  have hscale : StrictMono fun q : ℚ => q * (10 ^ (-i).toNat * 2 ^ (-j).toNat) := fun p q h =>
    mul_lt_mul_of_pos_right h (by positivity)
  have hcast : StrictMono fun k : ℕ => (k : ℚ) := Nat.strictMono_cast
  rw [compareScaled, ← cmp_eq_compare, ← cmp_eq_compare, ← hcast.cmp_map_eq,
    ← hscale.cmp_map_eq ((a : ℚ) * 10 ^ i)]
  congr 1
  · push_cast [Nat.pow_eq]
    rw [← hten]
    ring
  · push_cast [Nat.pow_eq]
    rw [← htwo]
    ring

theorem value_go_strip (k n : ℕ) (e : ℤ) : (strip.go k n e).value = n * 10 ^ e := by
  induction k generalizing n e with
  | zero => rfl
  | succ k ih =>
    rw [strip.go]
    split_ifs with h
    · obtain ⟨m, rfl⟩ : 10 ∣ n := by
        simp only [ne_eq, Bool.and_eq_true, decide_eq_true_eq] at h
        omega
      rw [ih, Nat.mul_div_cancel_left m (by decide), zpow_add_one₀ (by norm_num)]
      push_cast
      ring
    · rfl

@[simp] theorem value_strip (d : Decimal) : d.strip.value = d.value :=
  value_go_strip 20 d.digits d.exponent

end Decimal

/-! ### The intervals of all magnitudes -/

namespace Magnitude

/-- The mantissa of the magnitude that has `n` magnitudes below it. -/
def mantissa (n : ℕ) : ℕ := if n / 2 ^ 52 = 0 then n % 2 ^ 52 else 2 ^ 52 + n % 2 ^ 52

/-- The exponent of that magnitude, in steps of `2 ^ -1074`. -/
def exponent (n : ℕ) : ℕ := n / 2 ^ 52 - 1

/-- Where the interval of that magnitude begins, in units of `2 ^ -1076`. -/
def lowerEnd (n : ℕ) : ℕ :=
  (4 * mantissa n - if n % 2 ^ 52 = 0 ∧ 1 < n / 2 ^ 52 then 1 else 2) * 2 ^ exponent n

/-- **Where one interval ends the next begins.** -/
theorem lowerEnd_succ (n : ℕ) : lowerEnd (n + 1) = (4 * mantissa n + 2) * 2 ^ exponent n := by
  obtain ⟨f, hf⟩ : ∃ f, n / 2 ^ 52 = f := ⟨_, rfl⟩
  simp only [lowerEnd, mantissa, exponent, hf]
  by_cases hlast : n % 2 ^ 52 + 1 = 2 ^ 52
  · have hdiv : (n + 1) / 2 ^ 52 = f + 1 := by omega
    have hmod : (n + 1) % 2 ^ 52 = 0 := by omega
    have hfull : n % 2 ^ 52 = 2 ^ 52 - 1 := by omega
    rw [hdiv, hmod, hfull]
    cases f with
    | zero => rfl
    | succ f =>
      -- the step doubles, and the interval reaches half as far down as up
      rw [if_neg (Nat.succ_ne_zero _), if_neg (Nat.succ_ne_zero _), Nat.add_sub_cancel,
        Nat.add_sub_cancel, Nat.pow_succ, if_pos ⟨rfl, by omega⟩]
      omega
  · have hdiv : (n + 1) / 2 ^ 52 = f := by omega
    have hmod : (n + 1) % 2 ^ 52 = n % 2 ^ 52 + 1 := by omega
    rw [hdiv, hmod, if_neg (by omega : ¬(n % 2 ^ 52 + 1 = 0 ∧ 1 < f))]
    congr 1
    split_ifs <;> omega

theorem lowerEnd_strictMono : StrictMono lowerEnd := by
  refine strictMono_nat_of_lt_succ fun n => ?_
  rw [lowerEnd_succ, lowerEnd]
  exact Nat.mul_lt_mul_of_pos_right (by split_ifs <;> omega) (by positivity)

/-- The mantissas are even and odd in turn. -/
theorem mantissa_mod_two (n : ℕ) : mantissa n % 2 = n % 2 := by
  rw [mantissa]
  split_ifs <;> omega

end Magnitude

/-! ### The interval of a double -/

namespace Double

/-- How many magnitudes are below that of `x`. -/
def rank (x : Double) : ℕ := x.magnitudeBits.toNat

theorem rank_eq_mod (x : Double) : x.rank = x.bits.toNat % 2 ^ 63 := by
  rw [rank, magnitudeBits, UInt64.toNat_and]
  exact Nat.and_two_pow_sub_one_eq_mod x.bits.toNat 63

theorem fractionField_eq (x : Double) : x.fractionField = x.rank % 2 ^ 52 := by
  rw [fractionField, UInt64.toNat_and, rank_eq_mod]
  refine (Nat.and_two_pow_sub_one_eq_mod x.bits.toNat 52).trans ?_
  omega

theorem exponentField_eq (x : Double) : x.exponentField = x.rank / 2 ^ 52 := by
  rw [exponentField, UInt64.toNat_and, UInt64.toNat_shiftRight, rank_eq_mod]
  refine (Nat.and_two_pow_sub_one_eq_mod _ 11).trans ?_
  have hshift : (52 : UInt64).toNat % 64 = 52 := rfl
  rw [hshift, Nat.shiftRight_eq_div_pow]
  omega

theorem isZero_iff (x : Double) : x.isZero = true ↔ x.rank = 0 := by
  rw [isZero, beq_iff_eq, rank, ← UInt64.toNat_inj]
  rfl

theorem mantissa_eq (x : Double) : x.mantissa = Magnitude.mantissa x.rank := by
  rw [mantissa, exponentField_eq, fractionField_eq]
  rfl

theorem exponent_eq (x : Double) : x.exponent = (Magnitude.exponent x.rank : ℤ) - 1074 := by
  rw [exponent, exponentField_eq, Magnitude.exponent]
  split_ifs <;> omega

/-- A decimal on the scale on which the ends of the intervals are natural numbers. -/
def Scaled (d : Decimal) : ℚ := d.value * 2 ^ (1076 : ℕ)

theorem compareScaled_exponent (x : Double) (d : Decimal) (n : ℕ) :
    Decimal.compareScaled d.digits d.exponent n (x.exponent - 2) =
      compare (Scaled d) ((n * 2 ^ Magnitude.exponent x.rank : ℕ) : ℚ) := by
  have hscale : StrictMono fun q : ℚ => q * 2 ^ (1076 : ℕ) := fun p q h =>
    mul_lt_mul_of_pos_right h (by positivity)
  rw [Decimal.compareScaled_eq, ← cmp_eq_compare, ← cmp_eq_compare, ← hscale.cmp_map_eq]
  congr 1
  rw [exponent_eq, Nat.cast_mul, mul_assoc, ← zpow_natCast (2 : ℚ) 1076,
    ← zpow_add₀ (by norm_num), Nat.cast_pow, ← zpow_natCast]
  congr 2
  omega

/-- **The decimals that stand for a double** lie in an interval, whose ends belong to it if the
mantissa is even. -/
theorem roundsFrom_iff (x : Double) (d : Decimal) :
    x.roundsFrom d = true ↔
      (Magnitude.lowerEnd x.rank < Scaled d ∨
        x.rank % 2 = 0 ∧ Scaled d = Magnitude.lowerEnd x.rank) ∧
      (Scaled d < Magnitude.lowerEnd (x.rank + 1) ∨
        x.rank % 2 = 0 ∧ Scaled d = Magnitude.lowerEnd (x.rank + 1)) := by
  have hbelow : (if x.fractionField = 0 ∧ 1 < x.exponentField then 4 * x.mantissa - 1
      else 4 * x.mantissa - 2) * 2 ^ Magnitude.exponent x.rank = Magnitude.lowerEnd x.rank := by
    rw [Magnitude.lowerEnd, ← mantissa_eq, ← fractionField_eq, ← exponentField_eq]
    split_ifs <;> rfl
  have habove : (4 * x.mantissa + 2) * 2 ^ Magnitude.exponent x.rank =
      Magnitude.lowerEnd (x.rank + 1) := by
    rw [Magnitude.lowerEnd_succ, mantissa_eq]
  have heven : x.mantissa % 2 = x.rank % 2 := by
    rw [mantissa_eq, Magnitude.mantissa_mod_two]
  simp only [roundsFrom, compareScaled_exponent, hbelow, habove, heven, Bool.and_eq_true,
    Bool.or_eq_true, decide_eq_true_eq, compare_gt_iff_gt, compare_lt_iff_lt, compare_eq_iff_eq]

theorem roundsFrom_congr (x : Double) {d d' : Decimal} (h : d.value = d'.value) :
    x.roundsFrom d = x.roundsFrom d' := by
  have hscaled : Scaled d = Scaled d' := by rw [Scaled, h, Scaled]
  exact Bool.eq_iff_iff.2 (by rw [roundsFrom_iff, roundsFrom_iff, hscaled])

/-- A decimal of a lower magnitude lies at most at the beginning of a higher one, and there the
mantissas are both even only if the magnitudes are not next to each other. -/
theorem rank_le_of_roundsFrom {x y : Double} {d : Decimal} (hx : x.roundsFrom d = true)
    (hy : y.roundsFrom d = true) : y.rank ≤ x.rank := by
  by_contra hlt
  have hlt : x.rank + 1 ≤ y.rank := by omega
  have hx := ((roundsFrom_iff x d).1 hx).2
  have hy := ((roundsFrom_iff y d).1 hy).1
  have hends : (Magnitude.lowerEnd (x.rank + 1) : ℚ) ≤ Magnitude.lowerEnd y.rank :=
    Nat.cast_le.2 (Magnitude.lowerEnd_strictMono.monotone hlt)
  rcases hx with hx | ⟨hxeven, hx⟩
  · rcases hy with hy | ⟨-, hy⟩ <;> linarith
  · rcases hy with hy | ⟨hyeven, hy⟩
    · linarith
    · have hnext : x.rank + 1 = y.rank :=
        Magnitude.lowerEnd_strictMono.injective (Nat.cast_injective (R := ℚ) (by linarith))
      omega

/-- **A decimal stands for one magnitude at most.** -/
theorem rank_eq_of_roundsFrom {x y : Double} {d : Decimal} (hx : x.roundsFrom d = true)
    (hy : y.roundsFrom d = true) : x.rank = y.rank :=
  Nat.le_antisymm (rank_le_of_roundsFrom hy hx) (rank_le_of_roundsFrom hx hy)

/-! ### The shortest decimal -/

theorem value_exact (x : Double) : x.exact.value = x.mantissa * 2 ^ x.exponent := by
  have htwo := Decimal.zpow_mul_pow_toNat (b := 2) (by norm_num) x.exponent
  rw [exact]
  split_ifs with h
  · rw [Int.toNat_of_nonpos (by omega), pow_zero, mul_one] at htwo
    rw [Decimal.value, htwo]
    push_cast [Nat.pow_eq]
    ring
  · obtain ⟨k, hk⟩ : ∃ k : ℕ, x.exponent = -(k : ℤ) := ⟨(-x.exponent).toNat, by omega⟩
    have hten : (10 : ℚ) ^ k = 2 ^ k * 5 ^ k := by rw [← mul_pow]; norm_num
    rw [Decimal.value, hk, neg_neg, Int.toNat_natCast, zpow_neg, zpow_neg, zpow_natCast,
      zpow_natCast, hten]
    push_cast [Nat.pow_eq]
    field_simp

/-- The exact value of a double stands for it. -/
theorem roundsFrom_exact (x : Double) : x.roundsFrom x.exact = true := by
  have hscaled : Scaled x.exact = ((4 * x.mantissa * 2 ^ Magnitude.exponent x.rank : ℕ) : ℚ) := by
    rw [Scaled, value_exact, exponent_eq, mul_assoc, ← zpow_natCast (2 : ℚ) 1076,
      ← zpow_add₀ (by norm_num)]
    have hsum : (Magnitude.exponent x.rank : ℤ) - 1074 + (1076 : ℕ) =
        (Magnitude.exponent x.rank + 2 : ℕ) := by omega
    rw [hsum, zpow_natCast, pow_add]
    push_cast
    ring
  have hpos : 0 < 2 ^ Magnitude.exponent x.rank := by positivity
  rw [roundsFrom_iff, hscaled, Magnitude.lowerEnd_succ, Magnitude.lowerEnd, ← mantissa_eq]
  norm_cast
  refine ⟨?_, .inl (Nat.mul_lt_mul_of_pos_right (by omega) hpos)⟩
  rcases Nat.eq_zero_or_pos x.mantissa with hzero | hpositive
  · -- the interval of zero begins at zero
    have heven : x.rank % 2 = 0 := by
      rw [← Magnitude.mantissa_mod_two, ← mantissa_eq, hzero]
    exact .inr ⟨heven, by rw [hzero, Nat.mul_zero, Nat.zero_sub]⟩
  · exact .inl (Nat.mul_lt_mul_of_pos_right (by split_ifs <;> omega) hpos)

theorem roundsFrom_of_onGrid? {x : Double} {n : ℕ} {d : Decimal} (h : x.onGrid? n = some d) :
    x.roundsFrom d = true := by
  unfold onGrid? at h
  grind

/-- **The shortest decimal of a double stands for it.** -/
theorem roundsFrom_shortest (x : Double) : x.roundsFrom x.shortest = true := by
  rw [shortest]
  split_ifs with hzero
  · have hmantissa : x.mantissa = 0 := by
      have hrank : x.rank = 0 := by rw [rank, beq_iff_eq.1 hzero]; rfl
      rw [mantissa_eq, hrank]
      rfl
    rw [← roundsFrom_exact x]
    refine roundsFrom_congr x ?_
    rw [value_exact, hmantissa, Decimal.value, Nat.cast_zero, zero_mul, zero_mul]
  · rw [roundsFrom_congr x (Decimal.value_strip _)]
    cases h : (List.range 17).findSome? fun n => x.onGrid? (n + 1) with
    | none => exact roundsFrom_exact x
    | some d =>
      obtain ⟨n, -, hd⟩ := List.exists_of_findSome?_eq_some h
      exact roundsFrom_of_onGrid? hd

/-- Only zero is written as zero. -/
theorem digits_shortest_ne_zero {x : Double} (h : ¬x.isZero) : x.shortest.digits ≠ 0 := by
  intro hdigits
  have hscaled : Scaled x.shortest = 0 := by
    rw [Scaled, Decimal.value, hdigits, Nat.cast_zero, zero_mul, zero_mul]
  rw [isZero_iff] at h
  have hpos : 0 < Magnitude.lowerEnd x.rank :=
    Nat.zero_lt_of_lt (Magnitude.lowerEnd_strictMono (Nat.pos_of_ne_zero h))
  have hend : (0 : ℚ) < Magnitude.lowerEnd x.rank := Nat.cast_pos.2 hpos
  have hrounds := ((roundsFrom_iff x _).1 (roundsFrom_shortest x)).1
  rw [hscaled] at hrounds
  rcases hrounds with hlt | ⟨-, heq⟩ <;> linarith

/-! ### Doubles by their shortest decimals -/

theorem negative_iff (x : Double) : x.negative = true ↔ 2 ^ 63 ≤ x.bits.toNat := by
  have hbits := x.bits.toNat_lt
  have hand : (x.bits &&& 0x8000000000000000).toNat = 2 ^ 63 * (x.bits.toNat / 2 ^ 63 % 2) := by
    rw [UInt64.toNat_and]
    refine (Nat.and_comm _ _).trans ((Nat.two_pow_and x.bits.toNat 63).trans ?_)
    rw [Nat.testBit_eq_decide_div_mod_eq]
    rcases Nat.mod_two_eq_zero_or_one (x.bits.toNat / 2 ^ 63) with h | h <;> rw [h] <;> rfl
  rw [negative, bne_iff_ne, ne_eq, ← UInt64.toNat_inj, hand]
  have : (0 : UInt64).toNat = 0 := rfl
  omega

theorem ext_rank {x y : Double} (hsign : x.negative = y.negative) (hrank : x.rank = y.rank) :
    x = y := by
  have hx := x.bits.toNat_lt
  have hy := y.bits.toNat_lt
  rw [Bool.eq_iff_iff, negative_iff, negative_iff] at hsign
  rw [rank_eq_mod, rank_eq_mod] at hrank
  have hbits : x.bits = y.bits := UInt64.toNat_inj.1 (by omega)
  cases x
  cases y
  exact congrArg Double.mk hbits

/-- **A double is known** from its sign and the value of its shortest decimal. -/
theorem ext_shortest {x y : Double} (hsign : x.negative = y.negative)
    (hvalue : x.shortest.value = y.shortest.value) : x = y := by
  have hy := roundsFrom_shortest y
  rw [roundsFrom_congr y hvalue.symm] at hy
  exact ext_rank hsign (rank_eq_of_roundsFrom (roundsFrom_shortest x) hy)

end Double

end Parley

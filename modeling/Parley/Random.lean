/-!
# Random choice

A generator of 32-bit words whose state is one word, stored with the session, so that a
conversation can be played again.  Each draw moves the state on by a constant and scrambles it; as
the constant is odd, the state takes every value before it takes one again.

`pickIndex` turns draws into an index below a bound.  Draws that would favour the smaller indices
are drawn again.  This comes to an end because every draw but the one that makes the state zero
brings it nearer to zero (`distance_add_increment`), and the word of that draw is zero, which
favours no index.
-/

namespace Parley.Random

/-- What the state moves on by. -/
def increment : UInt32 := 0x6d2b79f5

/-- The word drawn from a state. -/
def scramble (state : UInt32) : UInt32 :=
  let a := (state ^^^ (state >>> 15)) * (state ||| 1)
  let b := a ^^^ (a + (a ^^^ (a >>> 7)) * (a ||| 61))
  b ^^^ (b >>> 14)

/-- Draw a word; the second part is the new state. -/
def next (state : UInt32) : UInt32 × UInt32 := (scramble (state + increment), state + increment)

/-- The number of words. -/
def period : Nat := Nat.pow 2 32

/-- The largest multiple of a bound up to the number of words.  Draws below it fall on all
remainders equally often. -/
def threshold (bound : Nat) : Nat := period / bound * bound

/-! ### How far it is to zero -/

/-- The number of increments that make one, counted among the words. -/
def inverse : Nat := 0xdc58aa5d

/-- How many draws make a state zero. -/
@[irreducible]
def distance (state : UInt32) : Nat := (period - state.toNat) * inverse % period

theorem period_eq : period = 4294967296 := rfl

theorem distance_lt (state : UInt32) : distance state < period := by
  rw [distance]
  exact Nat.mod_lt _ (by decide)

/-- Of the words only zero is at no distance, as the factor is odd. -/
theorem distance_pos {state : UInt32} (h : state ≠ 0) : 0 < distance state := by
  have hlt := state.toNat_lt
  have hne : state.toNat ≠ 0 := fun hzero => h (UInt32.toNat_inj.1 hzero)
  refine Nat.pos_of_ne_zero fun hzero => ?_
  rw [distance] at hzero
  have hcoprime : Nat.Coprime period inverse := by decide
  have hdvd := hcoprime.dvd_of_dvd_mul_right (Nat.dvd_of_mod_eq_zero hzero)
  rw [period_eq] at hdvd
  have hle := Nat.le_of_dvd (by omega) hdvd
  omega

theorem distance_add_increment {state : UInt32} (h : state ≠ 0) :
    distance (state + increment) + 1 = distance state := by
  have hlt := state.toNat_lt
  have hincrement : increment.toNat = 0x6d2b79f5 := rfl
  have hdistance := distance_pos h
  simp only [distance, UInt32.toNat_add, hincrement, period_eq, inverse, Nat.reducePow]
    at hdistance ⊢
  rcases Nat.lt_or_ge (state.toNat + 0x6d2b79f5) 4294967296 with hsum | hsum
  · rw [Nat.mod_eq_of_lt hsum]
    omega
  · have hwrap : (state.toNat + 0x6d2b79f5) % 4294967296 =
        state.toNat + 0x6d2b79f5 - 4294967296 := by omega
    rw [hwrap]
    omega

theorem next_of_eq_zero {state : UInt32} (h : state + increment = 0) : next state = (0, 0) := by
  have hzero : scramble 0 = 0 := by decide
  rw [next, h, hzero]

/-! ### Drawing -/

/-- Whether a word may be taken: it is below the threshold.  Where the threshold is zero no word is,
and any may be taken. -/
def Taken (bound : Nat) (word : UInt32) : Prop :=
  word.toNat < threshold bound ∨ threshold bound = 0

instance (bound : Nat) (word : UInt32) : Decidable (Taken bound word) :=
  inferInstanceAs (Decidable (word.toNat < threshold bound ∨ threshold bound = 0))

/-- After a word that is not taken, zero is nearer. -/
theorem distance_next_lt {bound : Nat} {state : UInt32} (h : ¬ Taken bound (next state).1) :
    distance ((next state).2 + increment) < distance (state + increment) := by
  have hne : state + increment ≠ 0 := by
    intro hzero
    rw [next_of_eq_zero hzero] at h
    exact h (Nat.eq_zero_or_pos _).symm
  exact Nat.lt_of_succ_le (Nat.le_of_eq (distance_add_increment hne))

/-- Draw until a word is taken; the second part is the new state. -/
def draw (bound : Nat) (state : UInt32) : UInt32 × UInt32 :=
  if h : Taken bound (next state).1 then next state
  else
    have := distance_next_lt h
    draw bound (next state).2
termination_by distance (state + increment)

theorem draw_of_taken {bound : Nat} {state : UInt32} (h : Taken bound (next state).1) :
    draw bound state = next state := by
  rw [draw, dif_pos h]

theorem draw_of_not_taken {bound : Nat} {state : UInt32} (h : ¬ Taken bound (next state).1) :
    draw bound state = draw bound (next state).2 := by
  rw [draw, dif_neg h]

/-- An index below the length of a list, and the new state. -/
def pickIndex (state : UInt32) (length : Nat) : Nat × UInt32 :=
  let bound := min length (period - 1)
  let drawn := draw bound state
  (drawn.1.toNat % bound, drawn.2)

end Parley.Random

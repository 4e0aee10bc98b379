import Mathlib.Data.FinEnum
import Mathlib.Data.Int.CardIntervalMod
import Parley.Random

/-!
# Fair choice

Words are drawn until one is below the threshold, and its remainder is the index that is picked.
`word state k` is the word that is drawn after `k` others, and `stateAfter state k` the state then.

**Picking comes to an end, and is fair** (`pickIndex_is_fair`): whatever the state is, one of the
words that come is below the threshold, the first of them gives the index, and below the threshold
there are equally many words for each index.
-/

namespace Parley.Random

/-! ### Draws -/

/-- The state after so many draws. -/
def stateAfter (state : UInt32) : ℕ → UInt32
  | 0 => state
  | k + 1 => (next (stateAfter state k)).2

/-- The word that is drawn after so many others. -/
def word (state : UInt32) (k : ℕ) : UInt32 := (next (stateAfter state k)).1

theorem stateAfter_next (state : UInt32) (k : ℕ) :
    stateAfter (next state).2 k = stateAfter state (k + 1) := by
  induction k with
  | zero => rw [stateAfter, stateAfter, stateAfter]
  | succ k ih => rw [stateAfter, ih, ← stateAfter]

theorem word_next (state : UInt32) (k : ℕ) : word (next state).2 k = word state (k + 1) :=
  congrArg (fun s => (next s).1) (stateAfter_next state k)

theorem threshold_pos {bound : ℕ} (hpos : 0 < bound) (h : bound < period) : 0 < threshold bound :=
  Nat.mul_pos (Nat.div_pos (Nat.le_of_lt h) hpos) hpos

theorem taken_iff {bound : ℕ} (hpos : 0 < bound) (h : bound < period) {w : UInt32} :
    Taken bound w ↔ w.toNat < threshold bound :=
  or_iff_left (Nat.ne_of_gt (threshold_pos hpos h))

/-- **Drawing ends with the first word that is taken**, before the state has come round. -/
theorem exists_draw_eq (bound : ℕ) (state : UInt32) :
    ∃ k ≤ distance (state + increment), (∀ j < k, ¬ Taken bound (word state j)) ∧
      Taken bound (word state k) ∧
        draw bound state = (word state k, stateAfter state (k + 1)) := by
  induction state using draw.induct bound with
  | case1 state htaken =>
    refine ⟨0, Nat.zero_le _, fun j hj => absurd hj (Nat.not_lt_zero j), htaken, ?_⟩
    rw [draw_of_taken htaken]
    rfl
  | case2 state hleft hnearer ih =>
    obtain ⟨k, hk, hearlier, htaken, hdraw⟩ := ih
    refine ⟨k + 1, Nat.succ_le_of_lt (Nat.lt_of_le_of_lt hk hnearer), fun j hj => ?_, ?_, ?_⟩
    · cases j with
      | zero => exact hleft
      | succ j => exact word_next state j ▸ hearlier j (Nat.lt_of_succ_lt_succ hj)
    · exact word_next state k ▸ htaken
    · rw [draw_of_not_taken hleft, hdraw, word_next, stateAfter_next]

/-! ### Drawing moves the state -/

theorem distance_zero : distance 0 = 0 := by
  rw [distance, UInt32.toNat_zero, Nat.sub_zero, Nat.mul_mod_right]

theorem stateAfter_succ (state : UInt32) (k : ℕ) :
    stateAfter state (k + 1) = stateAfter state k + increment := rfl

/-- Until the state is zero, each draw brings it nearer by one. -/
theorem distance_stateAfter_add {state : UInt32} {k : ℕ} (h : k ≤ distance state) :
    distance (stateAfter state k) + k = distance state := by
  induction k with
  | zero => rw [stateAfter, Nat.add_zero]
  | succ k ih =>
    have hbefore := ih (Nat.le_of_succ_le h)
    have hne : stateAfter state k ≠ 0 := by
      intro hzero
      rw [hzero, distance_zero] at hbefore
      omega
    have hstep := distance_add_increment hne
    rw [stateAfter_succ]
    omega

/-- More than half of the words are below a threshold. -/
theorem period_lt_two_mul_threshold {bound : ℕ} (hpos : 0 < bound) (h : bound < period) :
    period < 2 * threshold bound := by
  have hmod := Nat.mod_lt period hpos
  have hsplit : threshold bound + period % bound = period := Nat.div_add_mod' period bound
  have hquotient : 1 ≤ period / bound := Nat.div_pos (Nat.le_of_lt h) hpos
  have hfits : 1 * bound ≤ threshold bound := Nat.mul_le_mul_right bound hquotient
  omega

/-- A draw leaves another state.  It could only come round from zero to zero, but the first word
that is drawn from zero is taken. -/
theorem draw_ne_state {bound : ℕ} (hpos : 0 < bound) (h : bound < period) (state : UInt32) :
    (draw bound state).2 ≠ state := by
  obtain ⟨k, hk, hearlier, -, hdraw⟩ := exists_draw_eq bound state
  rw [hdraw]
  by_cases hstate : state = 0
  · -- of all words this is the only one that has to be computed
    have hfirst : Taken bound (word 0 0) := by
      have hword : (word 0 0).toNat = 1144304738 := by decide
      have hhalf := period_lt_two_mul_threshold hpos h
      rw [period_eq] at hhalf
      exact (taken_iff hpos h).2 (by omega)
    have hnone : k = 0 := by
      refine Nat.eq_zero_of_not_pos fun hlater => ?_
      exact hearlier 0 hlater (hstate ▸ hfirst)
    rw [hstate, hnone]
    decide
  · have hstep := distance_add_increment hstate
    have hnearer : distance (stateAfter state (k + 1)) + (k + 1) = distance state :=
      distance_stateAfter_add (by omega)
    intro hsame
    rw [show stateAfter state (k + 1) = state from hsame] at hnearer
    omega

theorem pickIndex_ne_state {length : ℕ} (h : 0 < length) (state : UInt32) :
    (pickIndex state length).2 ≠ state := by
  have hfew : period - 1 < period := Nat.sub_lt (period_eq ▸ by decide) Nat.one_pos
  have hsome : 0 < period - 1 := period_eq ▸ by decide
  have hmoves := draw_ne_state (Nat.lt_min.2 ⟨h, hsome⟩)
    (Nat.lt_of_le_of_lt (Nat.min_le_right _ _) hfew) state
  rcases hdrawn : draw (min length (period - 1)) state with ⟨w, after⟩
  rw [hdrawn] at hmoves
  rw [pickIndex, hdrawn]
  exact hmoves

/-! ### Remainders -/

/-- Up to a multiple of a number all its remainders occur equally often. -/
theorem card_filter_range_mod {n i : ℕ} (hi : i < n) (times : ℕ) :
    ((Finset.range (times * n)).filter fun m => m % n = i).card = times := by
  have hpos : 0 < n := Nat.lt_of_le_of_lt (Nat.zero_le i) hi
  have hcount := Nat.count_modEq_card (times * n) hpos i
  rw [Nat.mul_mod_left, if_neg (Nat.not_lt_zero _), Nat.mul_div_cancel _ hpos,
    Nat.count_eq_card_filter_range] at hcount
  simpa [Nat.ModEq, Nat.mod_eq_of_lt hi] using hcount

theorem threshold_le (bound : ℕ) : threshold bound ≤ period := Nat.div_mul_le_self period bound

theorem card_words {bound i : ℕ} (hi : i < bound) :
    (Finset.univ.filter fun w : UInt32 =>
      w.toNat < threshold bound ∧ w.toNat % bound = i).card = period / bound := by
  rw [← card_filter_range_mod hi (period / bound)]
  refine Finset.card_bij (fun w _ => w.toNat) ?_ ?_ ?_
  · intro w hw
    exact Finset.mem_filter.2 ⟨Finset.mem_range.2 (Finset.mem_filter.1 hw).2.1,
      (Finset.mem_filter.1 hw).2.2⟩
  · intro w _ w' _ heq
    exact UInt32.toNat_inj.1 heq
  · intro m hm
    obtain ⟨hlt, hmod⟩ : m < threshold bound ∧ m % bound = i := by simpa [threshold] using hm
    have hword : (UInt32.ofNat m).toNat = m :=
      UInt32.toNat_ofNat_of_lt' (Nat.lt_of_lt_of_le hlt (threshold_le bound))
    exact ⟨UInt32.ofNat m, by simpa [hword] using ⟨hlt, hmod⟩, hword⟩

/-- **Picking comes to an end, and is fair.**  After finitely many words that are not below the
threshold there is one that is, its remainder is picked, and each index is the remainder of equally
many of the words that may be taken. -/
theorem pickIndex_is_fair (state : UInt32) {n : ℕ} (hpos : 0 < n) (hn : n < period) :
    (∃ k < period, (∀ j < k, threshold n ≤ (word state j).toNat) ∧
      (word state k).toNat < threshold n ∧
        pickIndex state n = ((word state k).toNat % n, stateAfter state (k + 1)) ∧
          (pickIndex state n).1 < n) ∧
      ∀ i < n, (Finset.univ.filter fun w : UInt32 =>
        w.toNat < threshold n ∧ w.toNat % n = i).card = period / n := by
  refine ⟨?_, fun i hi => card_words hi⟩
  obtain ⟨k, hk, hearlier, htaken, hdraw⟩ := exists_draw_eq n state
  have hpick : pickIndex state n = ((word state k).toNat % n, stateAfter state (k + 1)) := by
    rw [pickIndex, Nat.min_eq_left (Nat.le_sub_one_of_lt hn), hdraw]
  have hfew : k < period := Nat.lt_of_le_of_lt hk (distance_lt _)
  refine ⟨k, hfew, fun j hj => ?_, (taken_iff hpos hn).1 htaken, hpick, ?_⟩
  · exact Nat.not_lt.1 fun hlt => hearlier j hj ((taken_iff hpos hn).2 hlt)
  · rw [hpick]
    exact Nat.mod_lt _ hpos

/-- A length of which barely half of the words are taken, and a state whose first two are not. -/
theorem pickIndex_is_fair_half :
    0 < 2147483649 ∧ 2147483649 < period ∧
      (∀ j < 2, threshold 2147483649 ≤ (word 5 j).toNat) ∧
        ∃ k, pickIndex 5 2147483649 = ((word 5 k).toNat % 2147483649, stateAfter 5 (k + 1)) ∧
          (pickIndex 5 2147483649).1 < 2147483649 ∧
            (Finset.univ.filter fun w : UInt32 =>
              w.toNat < threshold 2147483649 ∧ w.toNat % 2147483649 = 5).card = 1 := by
  have hpos : 0 < 2147483649 := by decide
  have hn : 2147483649 < period := by decide
  obtain ⟨⟨k, -, -, -, hpick, hlt⟩, hcard⟩ := pickIndex_is_fair 5 hpos hn
  exact ⟨hpos, hn, by decide, k, hpick, hlt, hcard 5 (by decide)⟩

end Parley.Random

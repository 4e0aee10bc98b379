import Mathlib.Analysis.Real.Sqrt
import Parley.Script.Composition

/-!
# Carousels are sent in parts

A carousel with many attachments is sent as several messages.  **No attachment is lost, sent twice
or moved, and nothing else differs between the parts** (`OutgoingMessage.parts_partition`).

The size of a part comes from a search for the square root, rounded up.  `rootFrom` finds the least
number that passes a test, and that is what rounding up the root means (`rootFrom_one`).  Cutting a
list into groups of a size makes full ones and at last one that holds what is left, and something
is always left for it (`exists_chunks_eq`).
-/

namespace Parley

namespace OutgoingMessage

/-! ### The size of a part -/

theorem le_rootFrom (count root : ℕ) : root ≤ rootFrom count root := by
  fun_induction rootFrom count root with
  | case1 root _ ih => omega
  | case2 => exact Nat.le_refl _

theorem rootFrom_le_iff {count root k : ℕ} (h : root ≤ k) :
    rootFrom count root ≤ k ↔ count ≤ k * k := by
  fun_induction rootFrom count root with
  | case1 root hlt ih =>
    rcases Nat.eq_or_lt_of_le h with rfl | hroot
    · have hle := le_rootFrom count (root + 1)
      omega
    · exact ih hroot
  | case2 root hge =>
    have hsquare : root * root ≤ k * k := Nat.mul_le_mul h h
    omega

/-- What is found from one on is the square root, rounded up. -/
theorem rootFrom_one {count : ℕ} (h : 0 < count) : rootFrom count 1 = ⌈√(count : ℝ)⌉₊ := by
  refine eq_of_forall_ge_iff fun k => ?_
  have hceil : ⌈√(count : ℝ)⌉₊ ≤ k ↔ count ≤ k * k := by
    rw [Nat.ceil_le, Real.sqrt_le_left k.cast_nonneg, ← Nat.cast_pow, Nat.cast_le, pow_two]
  rw [hceil]
  cases k with
  | zero =>
    have hle := le_rootFrom count 1
    omega
  | succ k => exact rootFrom_le_iff (Nat.le_add_left 1 k)

theorem groupSize_pos (count : ℕ) : 0 < groupSize count :=
  Nat.lt_min.2 ⟨le_rootFrom count 1, by decide⟩

/-! ### Groups -/

section

variable {α : Type} {size : ℕ}

theorem flatten_chunks (h : 0 < size) (items : List α) : (chunks size items).flatten = items := by
  fun_induction chunks size items with
  | case1 items hstop =>
    obtain rfl : items = [] := hstop.resolve_left h.ne'
    rfl
  | case2 items _ _ ih => rw [List.flatten_cons, ih, List.take_append_drop]

/-- All groups but the last are full, and the last one is not empty. -/
theorem exists_chunks_eq (h : 0 < size) {items : List α} (hne : items ≠ []) :
    ∃ full last, chunks size items = full ++ [last] ∧ (∀ group ∈ full, group.length = size) ∧
      0 < last.length ∧ last.length ≤ size := by
  fun_induction chunks size items with
  | case1 items hstop => exact absurd hstop (not_or_intro h.ne' hne)
  | case2 items _ _ ih =>
    have hpos : 0 < items.length := List.length_pos_iff.2 hne
    by_cases hrest : items.drop size = []
    · -- nothing is left behind this group, so it is the last one
      have hle : items.length ≤ size := List.drop_eq_nil_iff.1 hrest
      refine ⟨[], items, ?_, fun _ hmem => absurd hmem List.not_mem_nil, hpos, hle⟩
      rw [hrest, List.take_of_length_le hle, chunks, dif_pos (.inr rfl), List.nil_append]
    · obtain ⟨full, last, hchunks, hfull, hlast⟩ := ih hrest
      refine ⟨items.take size :: full, last, by rw [hchunks, List.cons_append], ?_, hlast⟩
      have hlt : size < items.length := by
        rw [List.drop_eq_nil_iff] at hrest
        omega
      intro group hgroup
      rcases List.mem_cons.1 hgroup with rfl | hgroup
      · rw [List.length_take, Nat.min_eq_left hlt.le]
      · exact hfull group hgroup

end

/-! ### Parts -/

/-- The attachments of a message. -/
def cards (m : OutgoingMessage) : List Json := m.attachments.getD []

/-- The same message with other attachments. -/
def withCards (m : OutgoingMessage) (group : List Json) : OutgoingMessage :=
  { m with attachments := some group }

@[simp] theorem cards_withCards (m : OutgoingMessage) (group : List Json) :
    (m.withCards group).cards = group := rfl

theorem flatMap_cards_withCards (m : OutgoingMessage) (groups : List (List Json)) :
    (groups.map m.withCards).flatMap cards = groups.flatten := by
  induction groups with
  | nil => rfl
  | cons group groups ih => rw [List.map_cons, List.flatMap_cons, ih, cards_withCards,
      List.flatten_cons]

theorem parts_of_not {m : OutgoingMessage}
    (h : ¬(m.attachmentLayout = some "carousel" ∧ 4 ≤ m.cards.length)) : m.parts = [m] := by
  unfold parts
  cases hitems : m.attachments with
  | none => rfl
  | some items =>
    rw [cards, hitems, Option.getD_some] at h
    exact if_neg h

theorem parts_of_split {m : OutgoingMessage} (hlayout : m.attachmentLayout = some "carousel")
    (hcount : 4 ≤ m.cards.length) :
    m.parts = (chunks (groupSize m.cards.length) m.cards).map m.withCards := by
  unfold parts
  cases hitems : m.attachments with
  | none =>
    rw [cards, hitems, Option.getD_none] at hcount
    exact absurd hcount (by decide)
  | some items =>
    rw [cards, hitems, Option.getD_some] at hcount ⊢
    exact if_pos ⟨hlayout, hcount⟩

/-- **Splitting a message loses nothing and sends nothing twice.**  The parts hold the attachments
of the message, in their order, and are like it in everything else.  A message is sent whole unless
it is a carousel of four attachments or more.  Of these, every part but the last has as many
attachments as the square root of their number says, rounded up, but ten at most; and the last part
has at least one, and no more than the others. -/
theorem parts_partition (m : OutgoingMessage) :
    m.parts.flatMap cards = m.cards ∧
      (∀ part ∈ m.parts, { part with attachments := m.attachments } = m) ∧
      (¬(m.attachmentLayout = some "carousel" ∧ 4 ≤ m.cards.length) → m.parts = [m]) ∧
      (m.attachmentLayout = some "carousel" → 4 ≤ m.cards.length →
        ∃ full last, m.parts = full ++ [last] ∧
          (∀ part ∈ full, part.cards.length = min ⌈√(m.cards.length : ℝ)⌉₊ 10) ∧
          1 ≤ last.cards.length ∧
          last.cards.length ≤ min ⌈√(m.cards.length : ℝ)⌉₊ 10) := by
  by_cases h : m.attachmentLayout = some "carousel" ∧ 4 ≤ m.cards.length
  · obtain ⟨hlayout, hcount⟩ := h
    have hparts := parts_of_split hlayout hcount
    have hpos : 0 < m.cards.length := Nat.lt_of_lt_of_le (by decide) hcount
    refine ⟨?_, fun part hpart => ?_, fun hnot => absurd ⟨hlayout, hcount⟩ hnot, fun _ _ => ?_⟩
    · rw [hparts, flatMap_cards_withCards, flatten_chunks (groupSize_pos _)]
    · rw [hparts] at hpart
      obtain ⟨group, -, rfl⟩ := List.mem_map.1 hpart
      rfl
    · obtain ⟨full, last, hchunks, hfull, hlast⟩ :=
        exists_chunks_eq (groupSize_pos m.cards.length) (List.length_pos_iff.1 hpos)
      have hsize : groupSize m.cards.length = min ⌈√(m.cards.length : ℝ)⌉₊ 10 := by
        rw [groupSize, rootFrom_one hpos, largestGroup]
      rw [← hsize]
      refine ⟨full.map m.withCards, m.withCards last, ?_, fun part hpart => ?_, hlast⟩
      · rw [hparts, hchunks, List.map_append, List.map_singleton]
      · obtain ⟨group, hgroup, rfl⟩ := List.mem_map.1 hpart
        exact hfull group hgroup
  · rw [parts_of_not h]
    refine ⟨List.flatMap_singleton cards m, fun part hpart => ?_, fun _ => rfl,
      fun hlayout hcount => absurd ⟨hlayout, hcount⟩ h⟩
    rw [List.mem_singleton.1 hpart]

end OutgoingMessage

end Parley

import Mathlib.Data.List.Basic
import Parley.Template

/-!
# Blanks and words

No character is both a blank and a word character (`Text.isWord_eq_false_of_isBlank`).  So what
stands between the braces of a tag can be read in one way only: the blanks end where the path
begins, and the path where blanks begin again.

Beyond ASCII the two classes are tables, and the one of the word characters is put together from
those of many kinds of characters by merging.  `Ranges.merged` merges by recursion on the two lists,
so that the tables can be evaluated and compared range by range.
-/

namespace Parley

namespace Text

/-! ### Merging by recursion -/

namespace Ranges

section

variable {α : Type} (le : α → α → Bool)

/-- Put an item into its place in a list, with what is to be merged behind it. -/
def mergedFrom (x : α) (behind : List α → List α) : List α → List α
  | [] => x :: behind []
  | y :: ys => if le x y then x :: behind (y :: ys) else y :: mergedFrom x behind ys

/-- Two lists merged in order. -/
def merged : List α → List α → List α
  | [], ys => ys
  | x :: xs, ys => mergedFrom le x (merged xs) ys

theorem merge_eq_merged (xs ys : List α) : xs.merge ys le = merged le xs ys := by
  induction xs generalizing ys with
  | nil => rw [List.nil_merge, merged]
  | cons x xs ih =>
    induction ys with
    | nil => rw [List.merge_right, merged, mergedFrom, ← ih, List.merge_right]
    | cons y ys ihy => rw [List.cons_merge_cons, merged, mergedFrom, ← merged, ih, ihy]

end

theorem union_eq (a b : Ranges) :
    a.union b = ofSorted (merged beginsBefore a.toList b.toList) := by
  rw [union, merge_eq_merged]

/-! ### Sets without a common character -/

/-- Every range of one set ends before any range of the other begins, or the other way round. -/
def apart (a b : Ranges) : Bool :=
  a.toList.all fun r => b.toList.all fun s => Nat.blt r.2 s.1 || Nat.blt s.2 r.1

theorem exists_mem_of_contains {r : Ranges} {n : Nat} (h : r.contains n) :
    ∃ range ∈ r.toList, range.1 ≤ n ∧ n ≤ range.2 := by
  obtain ⟨range, hfound⟩ := Option.isSome_iff_exists.1 h
  obtain ⟨hmem, hn⟩ := find?_mem hfound
  exact ⟨range, hmem.val, hn⟩

theorem contains_eq_false_of_apart {a b : Ranges} (h : a.apart b) {n : Nat} (hb : b.contains n) :
    a.contains n = false := by
  by_contra ha
  rw [Bool.not_eq_false] at ha
  obtain ⟨r, hr, hrn⟩ := exists_mem_of_contains ha
  obtain ⟨s, hs, hsn⟩ := exists_mem_of_contains hb
  have hapart := List.all_eq_true.1 (List.all_eq_true.1 h r hr) s hs
  simp only [Bool.or_eq_true, Nat.blt_eq] at hapart
  omega

end Ranges

/-! ### Blanks -/

theorem apart_wordChars_blanks : wordChars.apart blanks = true := by
  simp only [wordChars, alphabetic, furtherAlphabetic, ofKinds, Ranges.unions, Ranges.without,
    Ranges.complement, Ranges.union_eq, List.map, List.foldl, Category.marks, Category.letters,
    Category.chars, Category.listedChars]
  decide +kernel

/-- The blanks of ASCII come before all its letters and digits. -/
theorem toNat_le_of_isBlank {c : Char} (h : isBlank c) (hc : c.toNat < 0x80) : c.toNat ≤ 0x20 := by
  obtain ⟨range, hmem, hn⟩ := Ranges.exists_mem_of_contains h
  simp only [blanks, List.mem_cons, List.not_mem_nil, or_false] at hmem
  rcases hmem with rfl | rfl | rfl | rfl | rfl | rfl | rfl | rfl | rfl | rfl <;>
    simp only at hn <;> omega

theorem isBlank_eq_false {c : Char} (h : 0x20 < c.toNat) (hc : c.toNat < 0x80) :
    isBlank c = false := by
  by_contra hblank
  rw [Bool.not_eq_false] at hblank
  have hle := toNat_le_of_isBlank hblank hc
  omega

theorem lt_toNat_of_isWord {c : Char} (h : isWord c) : 0x20 < c.toNat := by
  by_contra hle
  have hall : ∀ n < 0x21, isWord (Char.ofNat n) = false := by decide
  have hword := hall c.toNat (Nat.lt_succ_of_le (Nat.le_of_not_lt hle))
  rw [Char.ofNat_toNat, h] at hword
  cases hword

theorem isWord_of_isDigit {c : Char} (h : c.isDigit) : isWord c := by
  have hc : c.toNat < 0x80 := by
    simp only [Char.isDigit, Bool.and_eq_true, decide_eq_true_eq, UInt32.le_iff_toNat_le] at h
    exact Nat.lt_of_le_of_lt h.2 (by decide)
  rw [isWord, if_pos hc, Char.isAlphanum, h, Bool.or_true, Bool.true_or]

/-- **No blank is a word character.** -/
theorem isWord_eq_false_of_isBlank {c : Char} (h : isBlank c) : isWord c = false := by
  by_contra hword
  rw [Bool.not_eq_false] at hword
  by_cases hc : c.toNat < 0x80
  · rw [isBlank_eq_false (lt_toNat_of_isWord hword) hc] at h
    cases h
  · rw [isWord, if_neg hc, Ranges.has,
      Ranges.contains_eq_false_of_apart apart_wordChars_blanks h] at hword
    cases hword

end Text

end Parley

/-!
# Ranges of code points

A set of characters as a table: the first and the last code point of each of its ranges, ascending
and apart.  `Ranges.find?` looks a code point up by halving.

Sets are combined by their ranges.  `Ranges.union` merges two tables and joins the ranges that
touch; `Ranges.complement` takes the gaps.  The other combinations are made of these two. -/

namespace Parley.Text

/-- The first and last code points of ranges, ascending and apart. -/
abbrev Ranges := Array (Nat × Nat)

namespace Ranges

/-- The range that holds a code point, among those from number `low` to below number `high`. -/
def findBetween (r : Ranges) (n low high : Nat) (h : high ≤ r.size) : Option (Nat × Nat) :=
  if lt : low < high then
    let middle := (low + high) / 2
    have bound : middle < r.size := by omega
    let range := r[middle]
    if n < range.1 then findBetween r n low middle (by omega)
    else if range.2 < n then findBetween r n (middle + 1) high h
    else some range
  else none
termination_by high - low

/-- The range that holds a code point. -/
def find? (r : Ranges) (n : Nat) : Option (Nat × Nat) := findBetween r n 0 r.size (Nat.le_refl _)

/-- Whether a code point is in the set. -/
def contains (r : Ranges) (n : Nat) : Bool := (r.find? n).isSome

/-! ### Making sets -/

/-- Ranges in the order of their first code points, behind one that is still growing: those that
overlap or touch are joined. -/
def joinOnto (current : Nat × Nat) : List (Nat × Nat) → List (Nat × Nat)
  | [] => [current]
  | next :: rest =>
    if next.1 ≤ current.2 + 1 then joinOnto (current.1, Nat.max current.2 next.2) rest
    else current :: joinOnto next rest

/-- The set of ranges that are given in the order of their first code points. -/
def ofSorted : List (Nat × Nat) → Ranges
  | [] => #[]
  | first :: rest => (joinOnto first rest).toArray

/-- Whether a range begins no later than another. -/
def beginsBefore (a b : Nat × Nat) : Bool := a.1 ≤ b.1

/-- The set of ranges that are given in any order. -/
def ofList (ranges : List (Nat × Nat)) : Ranges := ofSorted (ranges.mergeSort beginsBefore)

/-- The set of one code point. -/
def single (n : Nat) : Ranges := #[(n, n)]

/-- Every second code point of each range, starting with the first. -/
def everySecond (r : Ranges) : Ranges :=
  (r.toList.flatMap fun (first, last) =>
    (List.range ((last - first) / 2 + 1)).map fun k => (first + 2 * k, first + 2 * k)).toArray

/-! ### Combining sets -/

/-- The code points of either of two sets. -/
def union (a b : Ranges) : Ranges := ofSorted (List.merge a.toList b.toList beginsBefore)

/-- The code points of any of several sets. -/
def unions (sets : List Ranges) : Ranges := sets.foldl union #[]

/-- The last code point of all. -/
def lastCode : Nat := 0x10FFFF

/-- The code points from `next` on that lie in no range. -/
def gaps (next : Nat) : List (Nat × Nat) → List (Nat × Nat)
  | [] => if next ≤ lastCode then [(next, lastCode)] else []
  | (first, last) :: rest =>
    if next < first then (next, first - 1) :: gaps (last + 1) rest else gaps (last + 1) rest

/-- The code points that stand for no character: they are halves of others in another encoding. -/
def halves : Ranges := #[(0xD800, 0xDFFF)]

/-- The characters outside a set. -/
def complement (r : Ranges) : Ranges := (gaps 0 (r.union halves).toList).toArray

/-- The characters of a set that are not in another. -/
def without (a b : Ranges) : Ranges := (a.complement.union b).complement

/-- The characters of both of two sets. -/
def meet (a b : Ranges) : Ranges := (a.complement.union b.complement).complement

/-- The characters of one of two sets but not of both. -/
def either (a b : Ranges) : Ranges := (a.without b).union (b.without a)

/-- The characters from one code point to another. -/
def between (first last : Nat) : Ranges :=
  [(first, Nat.min last 0xD7FF), (Nat.max first 0xE000, last)].filter (fun r => r.1 ≤ r.2)
    |>.toArray

/-! ### What is found holds the code point -/

theorem findBetween_mem {r : Ranges} {n low high : Nat} {h : high ≤ r.size} {range : Nat × Nat}
    (found : findBetween r n low high h = some range) :
    range ∈ r ∧ range.1 ≤ n ∧ n ≤ range.2 := by
  fun_induction findBetween r n low high h with
  | case1 low high h lt middle bound range' below ih => exact ih found
  | case2 low high h lt middle bound range' below above ih => exact ih found
  | case3 low high h lt middle bound range' below above =>
    obtain rfl := Option.some.inj found
    exact ⟨Array.getElem_mem bound, Nat.le_of_not_lt below, Nat.le_of_not_lt above⟩
  | case4 => cases found

theorem find?_mem {r : Ranges} {n : Nat} {range : Nat × Nat} (found : r.find? n = some range) :
    range ∈ r ∧ range.1 ≤ n ∧ n ≤ range.2 := findBetween_mem found

end Ranges

end Parley.Text

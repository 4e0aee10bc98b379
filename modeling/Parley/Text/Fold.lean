import Parley.Text.FoldRuns
import Parley.Text.Ranges

/-!
# Folding of case

A set of characters is closed under the case of letters when it holds, with each letter, all others
that fold as it does.  `Ranges.closeCase` adds what is missing: first the letters that the letters
of the set fold to, and then the letters that fold to one of the set. -/

namespace Parley.Text

namespace FoldRun

/-- The letters of a run from one code point to another. -/
def lettersBetween (run : FoldRun) (first last : Nat) : List (Nat × Nat) :=
  if last < run.first || run.last < first then []
  else
    let first :=
      run.first + (Nat.max first run.first - run.first + run.step - 1) / run.step * run.step
    let last := Nat.min last run.last
    if last < first then []
    else if run.step = 1 then [(first, last)]
    else (List.range ((last - first) / run.step + 1)).map fun k =>
      (first + k * run.step, first + k * run.step)

/-- The code point at a distance from another. -/
def move (n : Nat) (distance : Int) : Nat := (n + distance).toNat

/-- What the letters of a run between two code points fold to. -/
def folded (run : FoldRun) (first last : Nat) : List (Nat × Nat) :=
  (run.lettersBetween first last).map fun (first, last) =>
    (move first run.shift, move last run.shift)

/-- The letters of a run that fold to one between two code points. -/
def unfolded (run : FoldRun) (first last : Nat) : List (Nat × Nat) :=
  run.lettersBetween (move first (-run.shift)) (move last (-run.shift))

end FoldRun

namespace Ranges

/-- Add what the runs give for each range of a set. -/
def addRuns (runs : Array FoldRun) (give : FoldRun → Nat → Nat → List (Nat × Nat))
    (r : Ranges) : Ranges :=
  let given := runs.foldl (fun given run =>
    r.foldl (fun given range => give run range.1 range.2 ++ given) given) []
  if given.isEmpty then r else r.union (ofList given)

/-- A set with all cases of its letters. -/
def closeCase (runs : Array FoldRun) (r : Ranges) : Ranges :=
  (r.addRuns runs FoldRun.folded).addRuns runs FoldRun.unfolded

end Ranges

end Parley.Text

import Parley.Text.Category
import Parley.Text.Fold

/-!
# Sets of characters in patterns

A `CharSet` is what a single place of a pattern admits, as it is written.  Each plain member of a
set says for itself how it takes case (`CaseRule`): exactly, by the folding of all letters, or by
that of `a` to `z` alone.  Sets made of such members by union, difference and complement then need
no rule of their own.  `CharSet.chars` gives the characters of a set. -/

namespace Parley.Pattern

open Text (Ranges)

/-- How a member of a set takes the case of letters. -/
inductive CaseRule where
  /-- As it is written. -/
  | exact
  /-- Any case of any letter. -/
  | folded
  /-- Any case of the letters `a` to `z`. -/
  | foldedAscii
deriving DecidableEq, Repr

namespace CaseRule

/-- A set with the cases of its letters that a rule adds. -/
def close : CaseRule → Ranges → Ranges
  | exact, r => r
  | folded, r => r.closeCase Text.foldRuns
  | foldedAscii, r => r.closeCase Text.asciiFoldRuns

end CaseRule

/-- How two sets are combined. -/
inductive SetOperation where
  | intersection
  | difference
  | symmetricDifference
deriving DecidableEq, Repr

namespace SetOperation

/-- The characters of two sets that are combined. -/
def chars : SetOperation → Ranges → Ranges → Ranges
  | intersection, a, b => a.meet b
  | difference, a, b => a.without b
  | symmetricDifference, a, b => a.either b

end SetOperation

/-- A set of characters. -/
inductive CharSet where
  /-- No character. -/
  | none
  /-- All characters but some. -/
  | allBut (excluded : List Char)
  /-- The code points from one to another. -/
  | range (first last : Nat) (rule : CaseRule)
  /-- The characters of a class. -/
  | kind (members : Ranges) (rule : CaseRule)
  /-- The characters outside a set. -/
  | complement (s : CharSet)
  /-- The characters of any of several sets. -/
  | union (sets : List CharSet)
  /-- A set combined with another. -/
  | combine (op : SetOperation) (a b : CharSet)
  /-- A set between brackets. -/
  | bracket (negated : Bool) (s : CharSet)

namespace CharSet

/-- A single character. -/
def single (c : Char) (rule : CaseRule) : CharSet := range c.toNat c.toNat rule

mutual

/-- The characters of a set. -/
def chars : CharSet → Ranges
  | none => #[]
  | allBut excluded => (Ranges.ofList (excluded.map fun c => (c.toNat, c.toNat))).complement
  | range first last rule => rule.close (.between first last)
  | kind members rule => rule.close members
  | complement s => s.chars.complement
  | union sets => .ofList (listChars sets)
  | combine op a b => op.chars a.chars b.chars
  | bracket negated s => if negated then s.chars.complement else s.chars

/-- The ranges of all of several sets, in any order. -/
def listChars : List CharSet → List (Nat × Nat)
  | [] => []
  | s :: rest => s.chars.toList ++ listChars rest

end

mutual

/-- How deep brackets, unions and combinations nest. -/
def depth : CharSet → Nat
  | union sets => unionDepth sets + 1
  | combine _ a b => max a.depth b.depth + 1
  | bracket _ s => s.depth + 1
  | none | allBut _ | range .. | kind .. | complement _ => 0

@[inherit_doc depth]
def unionDepth : List CharSet → Nat
  | [] => 0
  | s :: rest => max s.depth (unionDepth rest)

end

/-- The union of the members of a bracket; a single member stands for itself. -/
def ofMembers : List CharSet → CharSet
  | [] => none
  | [s] => s
  | sets => union sets

end CharSet

end Parley.Pattern

import Parley.Pattern.CharSet

/-!
# The tree of a pattern

A `Node` is a pattern as it is written.  Flags are already resolved: each set and each assertion
says itself how it takes case, lines and words.  How deep a tree nests is bounded (`Node.depth`).
-/

namespace Parley.Pattern

/-- What word characters are. -/
inductive Alphabet where
  | unicode
  | ascii
deriving DecidableEq, Repr

namespace Alphabet

/-- The characters that words are made of. -/
def chars : Alphabet → Text.Ranges
  | unicode => Text.wordChars
  | ascii => #[(0x30, 0x39), (0x41, 0x5A), (0x5F, 0x5F), (0x61, 0x7A)]

/-- Whether a character is part of a word. -/
def isWord : Alphabet → Char → Bool
  | unicode, c => Text.isWord c
  | ascii, c => c.isAlphanum || c == '_'

end Alphabet

/-- A condition on a place between characters. -/
inductive Assertion where
  | startOfText
  | endOfText
  /-- The start of a line; carriage returns may end lines as well. -/
  | startOfLine (carriage : Bool)
  /-- The end of a line; carriage returns may end lines as well. -/
  | endOfLine (carriage : Bool)
  | wordBoundary (alphabet : Alphabet)
  | noWordBoundary (alphabet : Alphabet)
  | wordStart (alphabet : Alphabet)
  | wordEnd (alphabet : Alphabet)
  /-- No word character before. -/
  | wordStartHalf (alphabet : Alphabet)
  /-- No word character behind. -/
  | wordEndHalf (alphabet : Alphabet)
deriving DecidableEq, Repr

/-- A pattern as a tree. -/
inductive Node where
  /-- Nothing. -/
  | empty
  /-- A change of flags. -/
  | flags
  /-- One character of a set. -/
  | set (s : CharSet)
  /-- A condition. -/
  | look (a : Assertion)
  /-- A pattern again and again, as often as possible or as rarely. -/
  | repetition (n : Node) (least : Nat) (most : Option Nat) (greedy : Bool)
  /-- A pattern between parentheses, and its number if it has one. -/
  | group (number : Option Nat) (n : Node)
  /-- Patterns one after the other. -/
  | concat (nodes : List Node)
  /-- One of several patterns. -/
  | choice (nodes : List Node)

namespace Node

/-- Patterns one after the other; a single one stands for itself. -/
def ofSequence : List Node → Node
  | [] => empty
  | [n] => n
  | nodes => concat nodes

/-- One of several patterns; a single one stands for itself. -/
def ofBranches : List Node → Node
  | [] => empty
  | [n] => n
  | nodes => choice nodes

/-! ### Depth -/

mutual

/-- How deep a pattern nests. -/
def depth : Node → Nat
  | empty | flags | look _ => 0
  | set s => s.depth
  | repetition n .. => n.depth + 1
  | group _ n => n.depth + 1
  | concat nodes => listDepth nodes + 1
  | choice nodes => listDepth nodes + 1

@[inherit_doc depth]
def listDepth : List Node → Nat
  | [] => 0
  | n :: rest => max n.depth (listDepth rest)

end

/-- A pattern may nest this deep. -/
def depthLimit : Nat := 250

end Node

end Parley.Pattern

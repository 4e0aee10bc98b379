import Parley.Pattern.Escape

/-!
# Sets between brackets

A set lists characters, ranges and classes, holds other sets, and combines what stands on either
side of `&&`, `--` and `~~`; these group to the left.  A hyphen at the beginning stands for itself,
and so does a closing bracket that comes first.
-/

namespace Parley.Pattern

/-- The members of a set so far, last first, and what is to be combined with their union. -/
structure OpenSet where
  left : Option (SetOperation × CharSet)
  members : List CharSet

namespace OpenSet

/-- A set that has just been opened. -/
def start (members : List CharSet) : OpenSet := ⟨none, members⟩

/-- Add a member. -/
def add (s : OpenSet) (member : CharSet) : OpenSet := { s with members := member :: s.members }

/-- The set that stands so far. -/
def close (s : OpenSet) : CharSet :=
  let right := CharSet.ofMembers s.members.reverse
  match s.left with
  | none => right
  | some (op, left) => .combine op left right

/-- Combine what stands so far with what follows. -/
def operate (s : OpenSet) (op : SetOperation) : OpenSet := ⟨some (op, s.close), []⟩

end OpenSet

/-- A character as a member of a set.  Where classes are those of ASCII it has to be of ASCII. -/
def member? (f : Flags) (c : Char) : Option CharSet :=
  if !f.unicode && 0x80 ≤ c.toNat then none else some (.single c f.rule)

/-- The hyphens at the beginning of a set; a set may not end behind them. -/
def leadingHyphens (f : Flags) (found : List CharSet) (cs : List Char) :
    Option (List CharSet × List Char) :=
  match cs with
  | [] => none
  | c :: rest =>
    if c = '-' then
      have := length_skipBlanks_le f rest
      leadingHyphens f (.single '-' f.rule :: found) (skipBlanks f rest)
    else some (found, c :: rest)
termination_by cs.length
decreasing_by simp only [List.length_cons]; omega

/-- The beginning of a set behind its bracket: whether it is negated, and the members that are
hyphens or a closing bracket. -/
def openBracket? (f : Flags) (cs : List Char) : Option (Bool × OpenSet × List Char) := do
  let (negated, cs) :=
    match skipBlanks f cs with
    | '^' :: rest => (true, skipBlanks f rest)
    | cs => (false, cs)
  let (found, cs) ← leadingHyphens f [] cs
  match found, cs with
  | [], ']' :: rest =>
    match skipBlanks f rest with
    | [] => none
    | rest => return (negated, .start [.single ']' f.rule], rest)
  | found, cs => return (negated, .start found, cs)

/-- The classes of ASCII that are written between brackets and colons. -/
def asciiClass? (name : List Char) : Option Text.Ranges :=
  match String.ofList name with
  | "alnum" => some #[(0x30, 0x39), (0x41, 0x5A), (0x61, 0x7A)]
  | "alpha" => some #[(0x41, 0x5A), (0x61, 0x7A)]
  | "ascii" => some #[(0x0, 0x7F)]
  | "blank" => some #[(0x9, 0x9), (0x20, 0x20)]
  | "cntrl" => some #[(0x0, 0x1F), (0x7F, 0x7F)]
  | "digit" => some asciiDigits
  | "graph" => some #[(0x21, 0x7E)]
  | "lower" => some #[(0x61, 0x7A)]
  | "print" => some #[(0x20, 0x7E)]
  | "punct" => some #[(0x21, 0x2F), (0x3A, 0x40), (0x5B, 0x60), (0x7B, 0x7E)]
  | "space" => some asciiBlanks
  | "upper" => some #[(0x41, 0x5A)]
  | "word" => some Alphabet.ascii.chars
  | "xdigit" => some #[(0x30, 0x39), (0x41, 0x46), (0x61, 0x66)]
  | _ => none

/-- A class of ASCII behind an opening bracket: whether it is denied, the class, and what follows
it. -/
def colonClass? : List Char → Option (Bool × Text.Ranges × List Char)
  | ':' :: cs =>
    let (denied, cs) := match cs with
      | '^' :: rest => (true, rest)
      | cs => (false, cs)
    match cs.dropWhile (· ≠ ':') with
    | ':' :: ']' :: rest => (asciiClass? (cs.takeWhile (· ≠ ':'))).map (denied, ·, rest)
    | _ => none
  | _ => none

/-- The next character that is neither a blank nor the beginning of a comment, as one looks ahead
behind a hyphen: the first character of a comment counts, and so does the next of all if no other
is left. -/
def ahead? (f : Flags) (cs : List Char) : Option Char :=
  if f.spaced then (go false cs).or cs.head? else cs.head?
where
  /-- The search, inside or outside of a comment. -/
  go : Bool → List Char → Option Char
    | _, [] => none
    | inComment, c :: rest =>
      if Text.isBlank c then go inComment rest
      else if !inComment && c == '#' then go true rest
      else some c

/-- A character or an escape inside a set. -/
def item? (f : Flags) : List Char → Option (Escape × List Char)
  | [] => none
  | c :: rest => if c = '\\' then escape? f rest else some (.char c, rest)

/-- A member of a set: a character, a class, or a range of characters. -/
def range? (f : Flags) (cs : List Char) : Option (CharSet × List Char) := do
  let (first, rest) ← item? f cs
  let alone : Option CharSet := match first with
    | .char c => member? f c
    | .set s => some s
    | .look _ => none
  match skipBlanks f rest with
  | [] => none
  | '-' :: behind =>
    if ahead? f behind = some ']' ∨ ahead? f behind = some '-' then
      return (← alone, '-' :: behind)
    else
      match skipBlanks f behind with
      | [] => none
      | cs =>
        let (last, rest) ← item? f cs
        match first, last with
        | .char a, .char b => do
          let _ ← member? f a
          let _ ← member? f b
          if a ≤ b then return (.range a.toNat b.toNat f.rule, rest) else none
        | _, _ => none
  | rest => return (← alone, rest)

/-- The operation that two equal characters stand for. -/
def operation? (a b : Char) : Option SetOperation :=
  if a ≠ b then none
  else if a = '&' then some .intersection
  else if a = '-' then some .difference
  else if a = '~' then some .symmetricDifference
  else none

/-- A set, negated if asked for; where classes are those of ASCII no set can be negated. -/
def bracket? (f : Flags) (negated : Bool) (s : OpenSet) : Option CharSet :=
  if negated && !f.unicode then none else some (.bracket negated s.close)

/-- The rest of a set, up to and with its closing bracket.  Each round takes a character at least,
so as many rounds are enough as there are characters. -/
def setRest? (f : Flags) : Nat → OpenSet → List Char → Option (OpenSet × List Char)
  | 0, _, _ => none
  | rounds + 1, s, cs =>
    match skipBlanks f cs with
    | [] => none
    | ']' :: rest => some (s, rest)
    | '[' :: rest =>
      match colonClass? rest with
      | some (denied, members, rest) =>
        if denied && !f.unicode then none
        else setRest? f rounds (s.add (.denyIf denied (.kind members f.rule))) rest
      | none => do
        let (negated, inner, rest) ← openBracket? f rest
        let (inner, rest) ← setRest? f rounds inner rest
        setRest? f rounds (s.add (← bracket? f negated inner)) rest
    | cs =>
      let op := match cs with
        | a :: b :: rest => (operation? a b).map (·, rest)
        | _ => none
      match op with
      | some (op, rest) => setRest? f rounds (s.operate op) rest
      | none => do
        let (member, rest) ← range? f cs
        setRest? f rounds (s.add member) rest

/-- A set behind its opening bracket. -/
def set? (f : Flags) (cs : List Char) : Option (CharSet × List Char) := do
  let (negated, s, rest) ← openBracket? f cs
  let (s, rest) ← setRest? f (rest.length + 1) s rest
  return (← bracket? f negated s, rest)

end Parley.Pattern

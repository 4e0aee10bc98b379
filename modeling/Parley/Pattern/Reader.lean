import Parley.Pattern.Bracket
import Parley.Pattern.Layout
import Parley.Pattern.Match
import Parley.Text.NextVersion

/-!
# Reading patterns

`Pattern.compile?` reads the text of a pattern.  A pattern is a choice between branches, a branch a
sequence of parts, and a part a character, a set, a condition or a group, possibly repeated.  Flags
that are set hold to the end of the group they are set in, also in its further branches.

A pattern that is not well written, or that is too deep or too large, has no reading.  Conditions on
what stands before or behind a place are not part of patterns, nor is what a group has taken.
-/

namespace Parley

open Pattern in
/-- A pattern: its text, and the form of what was read from it. -/
structure Pattern where
  source : String
  form : Form

namespace Pattern

/-- Where the reader stands: the flags in force, the names of groups so far, the number of the next
group, and the text left. -/
structure Cursor where
  flags : Flags
  names : List (List Char)
  number : Nat
  rest : List Char

/-! ### Counts -/

/-- Decimal digits at the beginning, as a number, and what follows them. -/
def digits (f : Flags) (value : Option Nat) (cs : List Char) : Option Nat × List Char :=
  match cs with
  | [] => (value, [])
  | c :: rest =>
    if c.isDigit then
      have := length_skipBlanks_le f rest
      digits f (some (value.getD 0 * 10 + (c.toNat - 48))) (skipBlanks f rest)
    else (value, c :: rest)
termination_by cs.length
decreasing_by simp only [List.length_cons]; omega

/-- What follows blanks, and comments between them if those have no meaning. -/
def afterCount (f : Flags) (cs : List Char) : List Char :=
  match cs with
  | [] => []
  | c :: rest =>
    if Text.isBlank c then
      have := length_skipBlanks_le f rest
      afterCount f (skipBlanks f rest)
    else c :: rest
termination_by cs.length
decreasing_by simp only [List.length_cons]; omega

/-- A count of at most 32 bits with blanks around it. -/
def count (f : Flags) (cs : List Char) : Option Nat × List Char :=
  let (value, rest) := digits f none (cs.dropWhile Text.isBlank)
  (value.filter (· < Nat.pow 2 32), afterCount f rest)

/-- How often a part is repeated: at least, at most, and whether as often as possible. -/
structure Count where
  least : Nat
  most : Option Nat
  greedy : Bool
deriving DecidableEq, Repr

/-- A count with what follows it: a question mark makes it lazy. -/
def counted (f : Flags) (least : Nat) (most : Option Nat) : List Char → Count × List Char
  | '?' :: rest => (⟨least, most, f.swapsGreed⟩, rest)
  | rest => (⟨least, most, !f.swapsGreed⟩, rest)

/-- How often a part is repeated, behind an opening brace: a count, a least count, or both bounds
in their order. -/
def counts? (f : Flags) (cs : List Char) : Option (Count × List Char) := do
  let (least, rest) := count f (skipBlanks f cs)
  let least ← least
  match rest with
  | '\x7d' :: rest => return counted f least (some least) (skipBlanks f rest)
  | ',' :: rest =>
    match skipBlanks f rest with
    | '\x7d' :: rest => return counted f least none (skipBlanks f rest)
    | rest =>
      let (most, rest) := count f rest
      let most ← most
      match rest with
      | '\x7d' :: rest =>
        if least ≤ most then return counted f least (some most) (skipBlanks f rest) else none
      | _ => none
  | _ => none

/-- Repeat the last part of a branch, if there is one and it is not a change of flags. -/
def repeatLast? (count : Count) : List Node → Option (List Node)
  | [] => none
  | .flags :: _ => none
  | part :: before => some (.repetition part count.least count.most count.greedy :: before)

/-! ### Groups -/

/-- What an opening parenthesis introduces. -/
inductive Opening where
  /-- A change of flags. -/
  | flags (f : Flags)
  /-- A group, with its number if it has one and the flags inside it. -/
  | group (number : Option Nat) (f : Flags)

/-- A group with a number. -/
def numbered (cur : Cursor) : Opening × Cursor :=
  (.group (some cur.number) cur.flags, { cur with number := cur.number + 1 })

/-- The characters of the name of a group. -/
def isNameChar (first : Bool) (c : Char) : Bool :=
  if first then c == '_' || Text.isAlphabetic c
  else c == '_' || c == '.' || c == '[' || c == ']' || Text.isAlphanumeric c

/-- The name of a group up to a closing angle. -/
def groupName? (name : List Char) : List Char → Option (List Char × List Char)
  | [] => none
  | c :: rest =>
    if c = '>' then (if name.isEmpty then none else some (name.reverse, rest))
    else if isNameChar name.isEmpty c then groupName? (c :: name) rest
    else none

/-- A named group; no name may be given twice. -/
def namedGroup? (cur : Cursor) (cs : List Char) : Option (Opening × Cursor) := do
  let (name, rest) ← groupName? [] cs
  if name ∈ cur.names then none
  else return numbered { cur with names := name :: cur.names, rest := rest }

/-- What stands behind an opening parenthesis. -/
def opening? (cur : Cursor) (cs : List Char) : Option (Opening × Cursor) :=
  match skipBlanks cur.flags cs with
  | '?' :: '=' :: _ | '?' :: '!' :: _ | '?' :: '<' :: '=' :: _ | '?' :: '<' :: '!' :: _ => none
  | '?' :: 'P' :: '<' :: rest | '?' :: '<' :: rest => namedGroup? cur rest
  | '?' :: rest => do
    let (f, any, last, rest) ← flagList? cur.flags [] true rest
    if last = ':' then return (.group none f, { cur with rest := rest })
    else if any then return (.flags f, { cur with rest := rest })
    else none
  | rest => some (numbered { cur with rest := rest })

/-! ### Parts and branches -/

/-- A single part: a character, a point, an assertion or an escape. -/
def part? (f : Flags) (c : Char) (rest : List Char) : Option (Node × List Char) :=
  match c with
  | '\\' => (escape? f rest).map fun (e, rest) =>
    match e with
    | .char c => (.set (.single c f.rule), rest)
    | .set s => (.set s, rest)
    | .look a => (.look a, rest)
  | '.' =>
    if !f.unicode then none
    else if f.dotAll then some (.set (.allBut []), rest)
    else some (.set (.allBut (if f.carriage then ['\r', '\n'] else ['\n'])), rest)
  | '^' => some (.look (if f.lines then .startOfLine f.carriage else .startOfText), rest)
  | '$' => some (.look (if f.lines then .endOfLine f.carriage else .endOfText), rest)
  | c => some (.set (.single c f.rule), rest)

/-- The choice between the branches of a group, which are given last first. -/
def finish (branches : List Node) (parts : List Node) : Node :=
  .ofBranches ((Node.ofSequence parts.reverse :: branches).reverse)

/-- The rest of a pattern, or of a group up to and with its closing parenthesis, behind some
branches and the parts of one more.  Each round takes a character at least, so as many rounds are
enough as there are characters. -/
def branches? : Nat → Bool → Cursor → List Node → List Node → Option (Node × Cursor)
  | 0, _, _, _, _ => none
  | rounds + 1, inGroup, cur, branches, parts =>
    match skipBlanks cur.flags cur.rest with
    | [] => if inGroup then none else some (finish branches parts, { cur with rest := [] })
    | c :: rest =>
      match c with
      | '(' =>
        match opening? cur rest with
        | none => none
        | some (.flags f, after) =>
          branches? rounds inGroup { after with flags := f } branches (.flags :: parts)
        | some (.group number f, after) =>
          match branches? rounds true { after with flags := f } [] [] with
          | none => none
          | some (n, after) =>
            branches? rounds inGroup { after with flags := cur.flags } branches
              (.group number n :: parts)
      | ')' => if inGroup then some (finish branches parts, { cur with rest := rest }) else none
      | '|' =>
        branches? rounds inGroup { cur with rest := rest }
          (Node.ofSequence parts.reverse :: branches) []
      | '[' =>
        match set? cur.flags rest with
        | none => none
        | some (s, rest) =>
          branches? rounds inGroup { cur with rest := rest } branches (.set s :: parts)
      | '?' => again rounds inGroup cur branches parts (counted cur.flags 0 (some 1) rest)
      | '*' => again rounds inGroup cur branches parts (counted cur.flags 0 none rest)
      | '+' => again rounds inGroup cur branches parts (counted cur.flags 1 none rest)
      | '\x7b' =>
        match counts? cur.flags rest with
        | none => none
        | some count => again rounds inGroup cur branches parts count
      | c =>
        match part? cur.flags c rest with
        | none => none
        | some (n, rest) =>
          branches? rounds inGroup { cur with rest := rest } branches (n :: parts)
where
  /-- Repeat the last part and go on behind the count. -/
  again (rounds : Nat) (inGroup : Bool) (cur : Cursor) (branches parts : List Node)
      (counted : Count × List Char) : Option (Node × Cursor) :=
    match repeatLast? counted.1 parts with
    | none => none
    | some parts => branches? rounds inGroup { cur with rest := counted.2 } branches parts

/-- The tree of a pattern.  Letters stand for all their cases unless the pattern says otherwise. -/
def tree? (source : List Char) : Option Node :=
  (branches? (source.length + 1) false ⟨{}, [], 1, source⟩ [] []).map Prod.fst

/-- Read a pattern. -/
def compile? (source : String) : Option Pattern := do
  let tree ← tree? source.toList
  if tree.depth ≤ Node.depthLimit then
    let form := tree.form
    if form.fits then return ⟨source, form⟩ else none
  else none

/-- Whether a pattern occurs anywhere in a text. -/
def occursIn (p : Pattern) (text : String) : Bool := p.form.occursIn text

end Pattern

end Parley

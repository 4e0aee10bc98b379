import Std.Data.HashMap
import Parley.Pattern.Form
import Parley.Text.Utf8

/-!
# How large the automaton of a pattern is

How large a pattern may be is told by two automata that match it, reading a text byte by byte, one
of them forward and one backward.  What is laid out here is not an automaton but the room that it
takes (`Room`): a state takes a fixed number of bytes, and some take further bytes for the states
they lead to.

A repeated form is laid out once for each time, and a set of characters by the ranges of its bytes.
States for these ranges are shared as long as the `Memo` of a set remembers them; it has a limited
number of slots, and the slot of a state follows from a digest of what the state leads to.
-/

namespace Parley.Pattern

open Text (Ranges ByteRange)

/-- The direction in which a text is read. -/
inductive Direction where
  | forward
  | backward
deriving DecidableEq, Repr

/-! ### Room -/

/-- The room that an automaton takes: how many states it has, and the bytes they take beyond what
every state takes. -/
structure Room where
  states : Nat := 0
  further : Nat := 0
deriving DecidableEq, Repr

namespace Room

/-- What a state takes. -/
def stateSize : Nat := 32

/-- What a transition takes in a state with several of them. -/
def transitionSize : Nat := 8

/-- What a branch takes in a state that branches. -/
def branchSize : Nat := 4

/-- The bytes of a room. -/
def bytes (r : Room) : Nat := stateSize * r.states + r.further

/-- An automaton may be this large. -/
def limit : Nat := 10 * Nat.pow 2 20

/-- A room with more states and bytes, if it keeps to the limit. -/
def grow? (r : Room) (states further : Nat) : Option Room :=
  let r : Room := ⟨r.states + states, r.further + further⟩
  if r.bytes ≤ limit then some r else none

/-- A room with a link from a state; only from a branching state it takes further bytes. -/
def link? (r : Room) (branching : Bool) : Option Room :=
  if branching then r.grow? 0 branchSize else some r

end Room

/-- A part of an automaton that is laid out: the room so far, and whether the part ends in a state
that branches. -/
abbrev Laid := Room × Bool

/-! ### Sets of characters -/

/-- One step of a digest. -/
def mix (digest : UInt64) (n : Nat) : UInt64 := (digest ^^^ UInt64.ofNat n) * 1099511628211

/-- The digest of a list of numbers. -/
def digest (numbers : List Nat) : Nat := (numbers.foldl mix 14695981039346656037).toNat

/-- The states of a set that are remembered: for a slot, what its state leads to and its number. -/
abbrev Memo := Std.HashMap Nat (List Nat × Nat)

/-- Find the state that leads to what is given, or add it: its number, and what is remembered now.
A new state takes the slot of an older one. -/
def Memo.state? (memo : Memo) (slots : Nat) (key : List Nat) (further : Nat) (r : Room) :
    Option (Nat × Memo × Room) :=
  let slot := digest key % slots
  match memo[slot]? with
  | some (key', number) => if key' = key then some (number, memo, r) else add slot
  | none => add slot
where
  /-- Add a state. -/
  add (slot : Nat) : Option (Nat × Memo × Room) :=
    (r.grow? 1 further).map fun r' => (r.states, memo.insert slot (key, r.states), r')

/-- Sequences of byte ranges by their first ranges, as long as neighbours agree in them. -/
def byFirst : List (List ByteRange) → List (ByteRange × List (List ByteRange))
  | [] => []
  | [] :: rest => byFirst rest
  | (range :: tail) :: rest =>
    match byFirst rest with
    | (range', tails) :: more =>
      if range = range' then (range, tail :: tails) :: more
      else (range, [tail]) :: (range', tails) :: more
    | [] => [(range, [tail])]

/-- The slots that are there for the states of a set read forward. -/
def forwardSlots : Nat := 10000

/-- The slots that are there for the states of a set read backward. -/
def backwardSlots : Nat := 1000

/-- Lay out the state from which sequences of at most `depth` ranges lead to a target, behind those
that it leads to itself. -/
def prefixState? (target : Nat) :
    Nat → List (List ByteRange) → Memo → Room → Option (Nat × Memo × Room)
  | 0, _, memo, r => some (target, memo, r)
  | depth + 1, sequences, memo, r => do
    let (transitions, memo, r) ← (byFirst sequences).foldlM
      (fun (transitions, memo, r) (range, tails) => do
        let (next, memo, r) ←
          if tails.all List.isEmpty then some (target, memo, r)
          else prefixState? target depth tails memo r
        return (transitions ++ [range.1, range.2, next], memo, r))
      (([], memo, r) : List Nat × Memo × Room)
    memo.state? forwardSlots transitions (Room.transitionSize * (transitions.length / 3)) r

/-- Lay out the states of a sequence of ranges that is read backward. -/
def suffixStates? : List ByteRange → Nat → Memo → Room → Option (Memo × Room)
  | [], _, memo, r => some (memo, r)
  | range :: rest, next, memo, r => do
    let (next, memo, r) ← memo.state? backwardSlots [next, range.1, range.2] 0 r
    suffixStates? rest next memo r

/-- Lay out a set of characters. -/
def layoutSet? (d : Direction) (chars : Ranges) (r : Room) : Option Room :=
  if chars.all fun range => range.2 < 0x80 then
    r.grow? 2 (Room.transitionSize * chars.size)
  else
    let sequences := Text.byteRanges chars
    match d with
    | .forward => do
      let (_, _, r) ← prefixState? r.states 4 sequences ∅ (← r.grow? 1 0)
      return r
    | .backward => do
      let last := r.states + 1
      let (_, r) ← sequences.foldlM
        (fun (memo, r) sequence => do
          let (memo, r) ← suffixStates? sequence last memo r
          return (memo, ← r.grow? 0 Room.branchSize))
        ((∅, ← r.grow? 2 0) : Memo × Room)
      return r

/-! ### Choices between literals -/

/-- The bytes of a literal in the order in which they are read. -/
def literalBytes (d : Direction) (chars : List Char) : List Nat :=
  let bytes := chars.flatMap fun c => Text.encode c.toNat
  match d with
  | .forward => bytes
  | .backward => bytes.reverse

/-- Cut a list of byte strings at those that are empty. -/
def chunks : List (List Nat) → List (List (List Nat))
  | [] => [[]]
  | [] :: rest => [] :: chunks rest
  | string :: rest =>
    match chunks rest with
    | chunk :: more => (string :: chunk) :: more
    | [] => [[string]]

/-- What follows each first byte of byte strings. -/
def byByte (strings : List (List Nat)) : List (List (List Nat)) :=
  (strings.filterMap List.head?).eraseDups.map fun byte =>
    strings.filterMap fun string => if string.head? = some byte then some string.tail else none

/-- Lay out the state of a tree of literals from which byte strings go on, some of which are read
already.  What follows a string is tried behind it, so each string that ends here begins a new chunk
of transitions.  Added to the room are the states that are left to be laid out. -/
def treeState? (strings : List (List Nat)) (r : Room) : Option (List (List (List Nat)) × Room) := do
  let ended := strings.head?.any List.isEmpty
  let parts := chunks (strings.dropWhile List.isEmpty)
  let groups := (parts.filter (!·.isEmpty)).map byByte
  let ends := parts.length - 1 + (if ended then 1 else 0)
  let r ← groups.foldlM
    (fun r group =>
      r.grow? 1 (if group.length = 1 then 0 else Room.transitionSize * group.length)) r
  let r ← r.grow? 1 (Room.branchSize * (groups.length + ends))
  return (groups.flatten.filter fun tails => !tails.all List.isEmpty, r)

/-- Lay out a tree of literals, level by level.  There are at most as many levels as the longest
literal has bytes. -/
def layoutTree? : Nat → List (List (List Nat)) → Room → Option Room
  | 0, _, r => some r
  | levels + 1, states, r =>
    if states.isEmpty then some r
    else do
      let (next, r) ← states.foldlM
        (fun (next, r) strings => do
          let (found, r) ← treeState? strings r
          return (found ++ next, r))
        (([], r) : List (List (List Nat)) × Room)
      layoutTree? levels next r

/-- Lay out a choice between literals, which share what they begin with. -/
def layoutLiterals? (d : Direction) (literals : List (List Char)) (r : Room) : Option Room := do
  let strings := literals.map (literalBytes d)
  layoutTree? (strings.foldl (fun longest s => Nat.max longest s.length) 0) [strings]
    (← r.grow? 1 0)

/-! ### Repetitions -/

/-- Lay out a part some times more. -/
def layoutMore? (part? : Room → Option Laid) : Nat → Laid → Option Laid
  | 0, laid => some laid
  | count + 1, (r, branching) =>
    match part? r with
    | none => none
    | some (r, next) =>
      match r.link? branching with
      | none => none
      | some r => layoutMore? part? count (r, next)

/-- Lay out a part a number of times. -/
def layoutTimes? (part? : Room → Option Laid) (count : Nat) (r : Room) : Option Laid :=
  match count with
  | 0 => (r.grow? 1 0).map (·, false)
  | count + 1 => (part? r).bind (layoutMore? part? count)

/-- Lay out a part that may come some times more. -/
def layoutUpTo? (part? : Room → Option Laid) : Nat → Laid → Option Laid
  | 0, (r, branching) => (r.link? branching).map (·, false)
  | count + 1, (r, branching) =>
    match (r.grow? 1 (2 * Room.branchSize)).bind part? with
    | none => none
    | some (r, next) =>
      match r.link? branching with
      | none => none
      | some r => layoutUpTo? part? count (r, next)

/-- Lay out a part that may come any number of times. -/
def layoutStar? (part? : Room → Option Laid) (takes : Bool) (r : Room) : Option Laid := do
  if takes then
    let (r, branching) ← part? (← r.grow? 1 Room.branchSize)
    return (← r.link? branching, true)
  else
    let (r, branching) ← part? r
    return (← (← r.grow? 3 (4 * Room.branchSize)).link? branching, false)

/-- Lay out a part that comes a number of times or more often. -/
def layoutAtLeast? (part? : Room → Option Laid) (count : Nat) (r : Room) : Option Laid := do
  let (r, branching) ← layoutTimes? part? count r
  return (← (← r.grow? 1 Room.branchSize).link? branching, true)

/-- Lay out a repetition of a part. -/
def layoutRepetition? (part? : Room → Option Laid) (takes : Bool) (least : Nat)
    (most : Option Nat) (r : Room) : Option Laid :=
  match most with
  | none => if least = 0 then layoutStar? part? takes r else layoutAtLeast? part? least r
  | some most =>
    if least = 0 ∧ most = 1 then do
      let (r, branching) ← part? (← r.grow? 1 (2 * Room.branchSize))
      return (← (← r.grow? 1 0).link? branching, false)
    else if least = most then layoutTimes? part? least r
    else do
      let (r, branching) ← layoutTimes? part? least r
      layoutUpTo? part? (most - least) (← r.grow? 1 0, branching)

/-! ### Forms -/

namespace Form

/-- The characters of a literal. -/
def literal? : Form → Option (List Char)
  | literal chars => some chars
  | _ => none

mutual

/-- Lay out a form. -/
def layout? (d : Direction) : Form → Room → Option Laid
  | empty, r => (r.grow? 1 0).map (·, false)
  | literal chars, r => (r.grow? (literalBytes d chars).length 0).map (·, false)
  | set chars, r => (layoutSet? d chars r).map (·, false)
  | look _, r => (r.grow? 1 0).map (·, false)
  | repetition f least most _, r => layoutRepetition? (fun r => f.layout? d r) f.takes least most r
  | capture _ f, r => do
    let (r, branching) ← f.layout? d (← r.grow? 1 0)
    return (← (← r.grow? 1 0).link? branching, false)
  | concat forms, r => layoutSequence? d forms r
  | choice forms, r =>
    match forms.mapM literal? with
    | some literals => (layoutLiterals? d literals r).map (·, false)
    | none => layoutChoice? d forms r

/-- Lay out forms one after the other. -/
def layoutSequence? (d : Direction) : List Form → Room → Option Laid
  | [], r => (r.grow? 1 0).map (·, false)
  | f :: rest, r => do
    let laid ← f.layout? d r
    layoutRest? d rest laid

/-- Lay out forms behind a part. -/
def layoutRest? (d : Direction) : List Form → Laid → Option Laid
  | [], laid => some laid
  | f :: rest, (r, branching) => do
    let (r, next) ← f.layout? d r
    layoutRest? d rest (← r.link? branching, next)

/-- Lay out one of several forms. -/
def layoutChoice? (d : Direction) : List Form → Room → Option Laid
  | [], r => (r.grow? 2 0).map (·, false)
  | [f], r => f.layout? d r
  | f :: g :: rest, r => do
    let (r, branching) ← f.layout? d r
    let (r, branching') ← g.layout? d r
    let r ← r.grow? 2 (2 * Room.branchSize)
    let r ← r.link? branching
    let r ← r.link? branching'
    layoutBranches? d rest r

/-- Lay out further branches of a choice. -/
def layoutBranches? (d : Direction) : List Form → Room → Option Laid
  | [], r => some (r, false)
  | f :: rest, r => do
    let (r, branching) ← f.layout? d (← r.grow? 0 Room.branchSize)
    layoutBranches? d rest (← r.link? branching)

end

/-- Lay out the whole automaton of a form.  Unless the form holds on to the place where reading
begins, a loop before it passes over what comes before a match. -/
def automaton? (d : Direction) (boundary : Assertion) (f : Form) : Option Room := do
  let r ←
    if f.opensWith boundary then ({} : Room).grow? 1 0
    else ({} : Room).grow? 3 (Room.transitionSize + 2 * Room.branchSize)
  let (r, branching) ← f.layout? d r
  (← r.grow? 1 0).link? branching

/-- A choice between so many literals is looked for without automata. -/
def manyLiterals : Nat := 3000

/-- Whether a form is a choice between so many literals that no automaton is made of it. -/
def isDictionary : Form → Bool
  | choice forms => manyLiterals ≤ forms.length && forms.all (·.literal?.isSome)
  | _ => false

/-- Whether the automata of a form keep to the limit, if there are any.  The place of the whole
match is kept by the one that reads forward. -/
def fits (f : Form) : Bool :=
  f.isDictionary ||
    ((capture 0 f).automaton? .forward .startOfText).isSome &&
      (f.mirror.automaton? .backward .endOfText).isSome

end Form

end Parley.Pattern

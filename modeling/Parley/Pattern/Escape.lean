import Parley.Pattern.Node
import Parley.Text.Hex
import Parley.Text.Property

/-!
# Flags, blanks and escapes of patterns

The smallest parts that a pattern is written with.  `Flags` say how what follows is to be
understood; `skipBlanks` passes over the blanks and comments of spaced patterns; `Escape` is what a
backslash introduces.  Everything here reads from the front of a list of characters and gives back
what is left of it.
-/

namespace Parley.Pattern

/-! ### Flags -/

/-- How a part of a pattern is to be understood. -/
structure Flags where
  /-- Letters stand for all their cases. -/
  folds : Bool := true
  /-- The start and the end of a line are those of any line, not of the text. -/
  lines : Bool := false
  /-- A point admits the characters that end lines. -/
  dotAll : Bool := false
  /-- Lines may end in carriage returns. -/
  carriage : Bool := false
  /-- Classes are those of all scripts and not of ASCII alone. -/
  unicode : Bool := true
  /-- Repetitions are lazy where they would be greedy, and greedy where they would be lazy. -/
  swapsGreed : Bool := false
  /-- Blanks and comments have no meaning. -/
  spaced : Bool := false
deriving DecidableEq, Repr

namespace Flags

/-- Set the flag with a letter. -/
def assign (f : Flags) (letter : Char) (value : Bool) : Option Flags :=
  match letter with
  | 'i' => some { f with folds := value }
  | 'm' => some { f with lines := value }
  | 's' => some { f with dotAll := value }
  | 'R' => some { f with carriage := value }
  | 'u' => some { f with unicode := value }
  | 'x' => some { f with spaced := value }
  | 'U' => some { f with swapsGreed := value }
  | _ => none

/-- How a member of a set takes case. -/
def rule (f : Flags) : CaseRule :=
  if f.folds then (if f.unicode then .folded else .foldedAscii) else .exact

/-- The alphabet of words. -/
def alphabet (f : Flags) : Alphabet := if f.unicode then .unicode else .ascii

end Flags

/-- A list of flags up to a colon or a closing parenthesis: the flags, whether there was any, the
character at the end and what follows it.  A hyphen turns the flags behind it off.  No flag and no
hyphen may come twice, and a hyphen may not come last. -/
def flagList? (f : Flags) (seen : List Char) (on : Bool) :
    List Char → Option (Flags × Bool × Char × List Char)
  | [] => none
  | c :: rest =>
    if c = ':' ∨ c = ')' then
      if seen.head? = some '-' then none else some (f, !seen.isEmpty, c, rest)
    else if c ∈ seen then none
    else if c = '-' then flagList? f (c :: seen) false rest
    else (f.assign c on).bind fun f => flagList? f (c :: seen) on rest

/-! ### Blanks -/

/-- What follows blanks and comments; a comment begins with a number sign and ends with its line. -/
def afterBlanks (inComment : Bool) : List Char → List Char
  | [] => []
  | c :: rest =>
    if inComment then afterBlanks (c ≠ '\n') rest
    else if Text.isBlank c then afterBlanks false rest
    else if c = '#' then afterBlanks true rest
    else c :: rest

/-- What follows the blanks that have no meaning. -/
def skipBlanks (f : Flags) (cs : List Char) : List Char :=
  if f.spaced then afterBlanks false cs else cs

theorem length_afterBlanks_le (inComment : Bool) (cs : List Char) :
    (afterBlanks inComment cs).length ≤ cs.length := by
  induction cs generalizing inComment with
  | nil => simp [afterBlanks]
  | cons c rest ih =>
    unfold afterBlanks
    split
    · exact Nat.le_succ_of_le (ih _)
    · split
      · exact Nat.le_succ_of_le (ih _)
      · split
        · exact Nat.le_succ_of_le (ih _)
        · exact Nat.le_refl _

theorem length_skipBlanks_le (f : Flags) (cs : List Char) :
    (skipBlanks f cs).length ≤ cs.length := by
  unfold skipBlanks
  split
  · exact length_afterBlanks_le _ _
  · exact Nat.le_refl _

/-! ### Escapes -/

/-- What a backslash introduces. -/
inductive Escape where
  | char (c : Char)
  | set (s : CharSet)
  | look (a : Assertion)

/-- Characters that a backslash makes stand for themselves: all of ASCII but letters, digits and
the two angles. -/
def isEscapable (c : Char) : Bool :=
  c.toNat < 0x80 && !c.isAlphanum && c != '<' && c != '>'

/-- A number of digits of base sixteen. -/
def hexDigits? (f : Flags) : Nat → Nat → List Char → Option (Nat × List Char)
  | 0, value, cs => some (value, cs)
  | _ + 1, _, [] => none
  | count + 1, value, c :: rest =>
    (Text.hexValue? c).bind fun d => hexDigits? f count (value * 16 + d) (skipBlanks f rest)

/-- Digits of base sixteen up to a closing brace, at least one. -/
def hexUntilBrace? (f : Flags) (value : Option Nat) (cs : List Char) : Option (Nat × List Char) :=
  match cs with
  | [] => none
  | c :: rest =>
    if c = '\x7d' then value.map fun n => (n, skipBlanks f rest)
    else
      have := length_skipBlanks_le f rest
      (Text.hexValue? c).bind fun d =>
        hexUntilBrace? f (some (value.getD 0 * 16 + d)) (skipBlanks f rest)
termination_by cs.length
decreasing_by simp only [List.length_cons]; omega

/-- A character by its code point. -/
def charOf? (n : Nat) : Option Char := if n.isValidChar then some (Char.ofNat n) else none

/-- A character by digits of base sixteen, so many or between braces.  Two digits write a byte, and
where classes are those of ASCII a byte has to be of ASCII. -/
def hexEscape? (f : Flags) (count : Nat) (cs : List Char) : Option (Escape × List Char) :=
  match skipBlanks f cs with
  | [] => none
  | '\x7b' :: rest => do
    let (n, rest) ← hexUntilBrace? f none (skipBlanks f rest)
    return (.char (← charOf? n), rest)
  | cs => do
    let (n, rest) ← hexDigits? f count 0 cs
    let c ← charOf? n
    if count = 2 ∧ !f.unicode ∧ 0x7F < n then none
    else return (.char c, rest)

/-- What stands before the first of some characters, and what stands behind it. -/
def splitAt? (separator : List Char) : List Char → Option (List Char × List Char)
  | [] => none
  | c :: rest =>
    if separator.isPrefixOf (c :: rest) then some ([], (c :: rest).drop separator.length)
    else (splitAt? separator rest).map fun (before, behind) => (c :: before, behind)

/-- The class of what stands between the braces of a class name, and whether it is denied. -/
def namedClass? (name : List Char) : Option (Text.Ranges × Bool) :=
  match splitAt? ['!', '='] name with
  | some (property, value) => (Text.propertyValue? property value).map (·, true)
  | none =>
    match (splitAt? [':'] name).or (splitAt? ['='] name) with
    | some (property, value) => (Text.propertyValue? property value).map (·, false)
    | none => (Text.property? name).map (·, false)

/-- The name of a class up to a closing brace. -/
def nameUntilBrace? (f : Flags) (name : List Char) (cs : List Char) :
    Option (List Char × List Char) :=
  match cs with
  | [] => none
  | c :: rest =>
    if c = '\x7d' then some (name.reverse, rest)
    else
      have := length_skipBlanks_le f rest
      nameUntilBrace? f (c :: name) (skipBlanks f rest)
termination_by cs.length
decreasing_by simp only [List.length_cons]; omega

/-- A set or its complement. -/
def CharSet.denyIf (denied : Bool) (s : CharSet) : CharSet := if denied then .complement s else s

/-- A class by its name, a single letter or a name between braces. -/
def classEscape? (f : Flags) (denied : Bool) (cs : List Char) : Option (Escape × List Char) := do
  let (name, rest) ←
    match skipBlanks f cs with
    | [] => none
    | '\\' :: _ => none
    | '\x7b' :: rest => nameUntilBrace? f [] (skipBlanks f rest)
    | c :: rest => some ([c], skipBlanks f rest)
  let (members, deniedByName) ← namedClass? name
  if f.unicode then return (.set (.denyIf (denied != deniedByName) (.kind members f.rule)), rest)
  else none

/-- The blanks of ASCII. -/
def asciiBlanks : Text.Ranges := #[(0x9, 0xD), (0x20, 0x20)]

/-- The digits of ASCII. -/
def asciiDigits : Text.Ranges := #[(0x30, 0x39)]

/-- The class that a letter stands for: digits, blanks or word characters.  In a capital it stands
for all other characters, which are not all of ASCII. -/
def shortClass? (f : Flags) (letter : Char) : Option CharSet :=
  let members : Option Text.Ranges := match letter.toLower with
    | 'd' => some (if f.unicode then Text.Category.digit.chars else asciiDigits)
    | 's' => some (if f.unicode then Text.blanks else asciiBlanks)
    | 'w' => some f.alphabet.chars
    | _ => none
  members.bind fun members =>
    if letter.isUpper && !f.unicode then none
    else some (.denyIf letter.isUpper (.kind members .exact))

/-- The assertion named between braces behind `\b`, if what stands there is a name. -/
def boundaryName (f : Flags) (name : List Char) (cs : List Char) : List Char × List Char :=
  match cs with
  | [] => (name.reverse, [])
  | c :: rest =>
    if c.isAlpha || c == '-' then
      have := length_skipBlanks_le f rest
      boundaryName f (c :: name) (skipBlanks f rest)
    else (name.reverse, c :: rest)
termination_by cs.length
decreasing_by simp only [List.length_cons]; omega

/-- The end of a word, its start or either, behind `\b`.  Braces that do not begin with a letter or
a hyphen are a count and not a name. -/
def boundary? (f : Flags) (cs : List Char) : Option (Assertion × List Char) :=
  match cs with
  | '\x7b' :: inner =>
    match skipBlanks f inner with
    | [] => none
    | c :: rest =>
      if c.isAlpha || c == '-' then
        match boundaryName f [] (c :: rest) with
        | (name, '\x7d' :: rest) =>
          match String.ofList name with
          | "start" => some (.wordStart f.alphabet, rest)
          | "end" => some (.wordEnd f.alphabet, rest)
          | "start-half" => some (.wordStartHalf f.alphabet, rest)
          | "end-half" => some (.wordEndHalf f.alphabet, rest)
          | _ => none
        | _ => none
      else some (.wordBoundary f.alphabet, cs)
  | cs => some (.wordBoundary f.alphabet, cs)

/-- What the characters behind a backslash stand for. -/
def escape? (f : Flags) : List Char → Option (Escape × List Char)
  | [] => none
  | c :: rest =>
    match c with
    | 'x' => hexEscape? f 2 rest
    | 'u' => hexEscape? f 4 rest
    | 'U' => hexEscape? f 8 rest
    | 'p' => classEscape? f false rest
    | 'P' => classEscape? f true rest
    | 'd' | 's' | 'w' | 'D' | 'S' | 'W' => (shortClass? f c).map fun s => (.set s, rest)
    | 'a' => some (.char '\x07', rest)
    | 'f' => some (.char '\x0c', rest)
    | 't' => some (.char '\t', rest)
    | 'n' => some (.char '\n', rest)
    | 'r' => some (.char '\r', rest)
    | 'v' => some (.char '\x0b', rest)
    | 'A' => some (.look .startOfText, rest)
    | 'z' => some (.look .endOfText, rest)
    | 'b' => (boundary? f rest).map fun (a, rest) => (.look a, rest)
    | 'B' => some (.look (.noWordBoundary f.alphabet), rest)
    | '<' => some (.look (.wordStart f.alphabet), rest)
    | '>' => some (.look (.wordEnd f.alphabet), rest)
    | c => if isEscapable c then some (.char c, rest) else none

end Parley.Pattern

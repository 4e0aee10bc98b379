import Parley.Pattern.Node

/-!
# The form of a pattern

A `Form` is what is left of a pattern when it no longer matters how it was written.  Sets are given
by their characters; a set of one character is a literal, and literals that follow one another are
one. Sequences and choices do not hold their own kind directly, a choice between sets is a set, and
what all branches of a choice begin with stands before it.

`Node.form` brings a pattern into its form.  The functions that put forms together (`Form.ofChars`,
`Form.again`, `Form.joined` and `Form.oneOf`) keep these rules.
-/

namespace Parley.Pattern

open Text (Ranges)

/-- A pattern in its form. -/
inductive Form where
  /-- Nothing. -/
  | empty
  /-- Characters one after the other. -/
  | literal (chars : List Char)
  /-- One character of a set. -/
  | set (chars : Ranges)
  /-- A condition. -/
  | look (a : Assertion)
  /-- A form again and again, as often as possible or as rarely. -/
  | repetition (f : Form) (least : Nat) (most : Option Nat) (greedy : Bool)
  /-- A form whose place in the text is kept under a number. -/
  | capture (number : Nat) (f : Form)
  /-- Forms one after the other. -/
  | concat (forms : List Form)
  /-- One of several forms. -/
  | choice (forms : List Form)
deriving Inhabited

namespace Form

/-! ### Comparison and size -/

mutual

/-- Whether two forms are the same. -/
def same : Form → Form → Bool
  | empty, empty => true
  | literal a, literal b => a == b
  | set a, set b => a == b
  | look a, look b => a == b
  | repetition f least most greedy, repetition f' least' most' greedy' =>
    least == least' && most == most' && greedy == greedy' && f.same f'
  | capture number f, capture number' f' => number == number' && f.same f'
  | concat forms, concat forms' => sameAll forms forms'
  | choice forms, choice forms' => sameAll forms forms'
  | _, _ => false

/-- Whether forms are the same, one by one. -/
def sameAll : List Form → List Form → Bool
  | [], [] => true
  | f :: rest, f' :: rest' => f.same f' && sameAll rest rest'
  | _, _ => false

end

mutual

/-- How many forms a form is made of. -/
def size : Form → Nat
  | empty | literal _ | set _ | look _ => 1
  | repetition f .. => f.size + 1
  | capture _ f => f.size + 1
  | concat forms => listSize forms + 1
  | choice forms => listSize forms + 1

@[inherit_doc size]
def listSize : List Form → Nat
  | [] => 0
  | f :: rest => f.size + listSize rest

end

/-! ### What a form takes -/

mutual

/-- Whether a form takes no character. -/
def idle : Form → Bool
  | empty | look _ => true
  | literal chars => chars.isEmpty
  | set _ => false
  | repetition f _ most _ => f.idle && most.isSome
  | capture _ f => f.idle
  | concat forms => allIdle forms
  | choice forms => allIdle forms

/-- Whether none of several forms takes a character. -/
def allIdle : List Form → Bool
  | [] => true
  | f :: rest => f.idle && allIdle rest

end

mutual

/-- How many characters a form takes at least; nothing is known of forms with an empty set. -/
def least? : Form → Option Nat
  | empty | look _ => some 0
  | literal chars => some chars.length
  | set chars => if chars.isEmpty then none else some 1
  | repetition f least _ _ => f.least?.map (· * least)
  | capture _ f => f.least?
  | concat forms => leastSum? forms
  | choice forms => leastOf? forms

/-- How many characters several forms take at least together. -/
def leastSum? : List Form → Option Nat
  | [] => some 0
  | f :: rest =>
    match f.least?, leastSum? rest with
    | some a, some b => some (a + b)
    | _, _ => none

/-- How many characters that one takes which takes least of several forms. -/
def leastOf? : List Form → Option Nat
  | [] => none
  | [f] => f.least?
  | f :: rest =>
    match f.least?, leastOf? rest with
    | some a, some b => some (Nat.min a b)
    | _, _ => none

end

/-- Whether a form is known to take a character. -/
def takes (f : Form) : Bool := f.least?.any (0 < ·)

mutual

/-- Whether a condition has to hold where a form begins. -/
def opensWith (a : Assertion) : Form → Bool
  | empty | literal _ | set _ => false
  | look a' => a == a'
  | repetition f least _ _ => 0 < least && f.opensWith a
  | capture _ f => f.opensWith a
  | concat forms => concatOpensWith a forms
  | choice forms => allOpenWith a forms

/-- Whether a condition has to hold where forms one after the other begin. -/
def concatOpensWith (a : Assertion) : List Form → Bool
  | [] => false
  | f :: rest => f.opensWith a || (f.idle && concatOpensWith a rest)

/-- Whether a condition has to hold where any of several forms begins. -/
def allOpenWith (a : Assertion) : List Form → Bool
  | [] => true
  | f :: rest => f.opensWith a && allOpenWith a rest

end

/-! ### Putting forms together -/

/-- A character of a set. -/
def ofChars (chars : Ranges) : Form :=
  match chars.toList with
  | [(first, last)] => if first = last then literal [Char.ofNat first] else set chars
  | _ => set chars

/-- A form again and again.  What takes no character is not repeated more than once. -/
def again (f : Form) (least : Nat) (most : Option Nat) (greedy : Bool) : Form :=
  let (least, most) :=
    if f.idle then (Nat.min least 1, some (Nat.min (most.getD 1) 1)) else (least, most)
  if least = 0 ∧ most = some 0 then empty
  else if least = 1 ∧ most = some 1 then f
  else repetition f least most greedy

/-- Put a form that is no sequence before others; literals grow together. -/
def before (f : Form) (rest : List Form) : List Form :=
  match f, rest with
  | empty, rest => rest
  | literal a, literal b :: rest => literal (a ++ b) :: rest
  | f, rest => f :: rest

/-- The parts of a sequence of forms. -/
def parts (forms : List Form) : List Form :=
  forms.foldr (fun f rest =>
    match f with
    | concat inner => inner.foldr before rest
    | f => before f rest) []

/-- Forms one after the other. -/
def joined (forms : List Form) : Form :=
  match parts forms with
  | [] => empty
  | [f] => f
  | forms => concat forms

/-- The branches of a choice between forms. -/
def branches (forms : List Form) : List Form :=
  forms.flatMap fun f =>
    match f with
    | choice inner => inner
    | f => [f]

/-- The code point of a literal of one character. -/
def single? : Form → Option Nat
  | literal [c] => some c.toNat
  | _ => none

/-- The characters of a set. -/
def set? : Form → Option Ranges
  | set chars => some chars
  | _ => none

/-- The parts of a sequence. -/
def concat? : Form → Option (List Form)
  | concat forms => some forms
  | _ => none

/-- What two sequences begin with. -/
def commonStart : List Form → List Form → List Form
  | f :: rest, f' :: rest' => if f.same f' then f :: commonStart rest rest' else []
  | _, _ => []

/-- What all of several sequences begin with. -/
def sharedStart : List (List Form) → List Form
  | [] => []
  | forms :: rest => rest.foldl commonStart forms

/-- One of several forms.  Each round takes the beginning off the branches, so as many rounds are
enough as there are forms in them. -/
def oneOf : Nat → List Form → Form
  | rounds, forms =>
    match branches forms with
    | [] => set #[]
    | [f] => f
    | forms =>
      match forms.mapM single?, forms.mapM set?, forms.mapM concat? with
      | some codes, _, _ => ofChars (.ofList (codes.map fun n => (n, n)))
      | _, some sets, _ => ofChars (.ofList (sets.flatMap Array.toList))
      | _, _, some sequences =>
        match rounds, sharedStart sequences with
        | rounds + 1, f :: start =>
          let length := (f :: start).length
          joined ((f :: start) ++ [oneOf rounds (sequences.map fun s => joined (s.drop length))])
        | _, _ => choice forms
      | _, _, _ => choice forms

/-! ### Mirroring -/

mutual

/-- A form read from its end: sequences are turned around, and no place in the text is kept. -/
def mirror : Form → Form
  | empty => empty
  | literal chars => literal chars
  | set chars => set chars
  | look a => look a
  | repetition f least most greedy => repetition f.mirror least most greedy
  | capture _ f => f.mirror
  | concat forms => concat (mirrorAll forms).reverse
  | choice forms => choice (mirrorAll forms)

/-- Several forms, each read from its end. -/
def mirrorAll : List Form → List Form
  | [] => []
  | f :: rest => f.mirror :: mirrorAll rest

end

end Form

namespace Node

mutual

/-- The form of a pattern. -/
def form : Node → Form
  | empty | flags => .empty
  | set s => .ofChars s.chars
  | look a => .look a
  | repetition n least most greedy => n.form.again least most greedy
  | group none n => n.form
  | group (some number) n => .capture number n.form
  | concat nodes => .joined (forms nodes)
  | choice nodes =>
    let branches := forms nodes
    .oneOf (Form.listSize branches) branches

/-- The forms of several patterns. -/
def forms : List Node → List Form
  | [] => []
  | n :: rest => n.form :: forms rest

end

end Node

end Parley.Pattern

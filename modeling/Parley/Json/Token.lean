import Parley.Json.Number
import Parley.Text.Hex

/-!
# The tokens of a JSON text

A JSON text is a sequence of tokens, with blanks between them.  `Token.lex` cuts a text into its
tokens and `Token.chars` spells one.

Two kinds of token can be well written and yet stand for nothing: a number too large for a double,
and a string that escapes one half of a surrogate pair alone.  They are tokens all the same, with
no value, because a text that has them where nobody looks is still a text; whoever decodes such a
place refuses it.

`lex` goes from left to right and every token takes at least one character (`next?_length_lt`), so
it ends.
-/

namespace Parley

namespace Json

/-- A token of a JSON text. -/
inductive Token where
  | openArray
  | closeArray
  | openObject
  | closeObject
  | comma
  | colon
  | null
  | bool (value : Bool)
  | number (value : Option Number)
  | string (value : Option String)
deriving DecidableEq, Repr

namespace Token

/-! ### Spelling -/

/-- How a character is written inside a string: quotes, backslashes and control characters are
escaped, all others stand for themselves. -/
def escaped (c : Char) : List Char :=
  if c = '"' then ['\\', '"']
  else if c = '\\' then ['\\', '\\']
  else if c = '\x08' then ['\\', 'b']
  else if c = '\x0c' then ['\\', 'f']
  else if c = '\n' then ['\\', 'n']
  else if c = '\r' then ['\\', 'r']
  else if c = '\t' then ['\\', 't']
  else if c.toNat < 0x20 then
    ['\\', 'u', '0', '0', Text.hexDigit (c.toNat / 16), Text.hexDigit (c.toNat % 16)]
  else [c]

/-- A string literal. -/
def quoted (text : String) : List Char := '"' :: (text.toList.flatMap escaped ++ ['"'])

/-- The spelling of a token.  A token without a value has none. -/
def chars : Token → List Char
  | openArray => ['[']
  | closeArray => [']']
  | openObject => ['\x7b']
  | closeObject => ['\x7d']
  | comma => [',']
  | colon => [':']
  | null => "null".toList
  | bool true => "true".toList
  | bool false => "false".toList
  | number (some n) => n.chars
  | string (some s) => quoted s
  | number none | string none => []

/-! ### Strings -/

/-- The value of four digits of base sixteen. -/
def hexValue4? (a b c d : Char) : Option Nat := do
  let a ← Text.hexValue? a
  let b ← Text.hexValue? b
  let c ← Text.hexValue? c
  let d ← Text.hexValue? d
  return ((a * 16 + b) * 16 + c) * 16 + d

/-- The character that a letter after a backslash stands for. -/
def unescape? : Char → Option Char
  | '"' => some '"'
  | '\\' => some '\\'
  | '/' => some '/'
  | 'b' => some '\x08'
  | 'f' => some '\x0c'
  | 'n' => some '\n'
  | 'r' => some '\r'
  | 't' => some '\t'
  | _ => none

/-- Half of a surrogate pair. -/
def isSurrogate (n : Nat) : Bool := 0xD800 ≤ n && n < 0xE000

/-- The code point of a surrogate pair. -/
def pairValue? (high low : Nat) : Option Nat :=
  if 0xD800 ≤ high ∧ high < 0xDC00 ∧ 0xDC00 ≤ low ∧ low < 0xE000 then
    some (0x10000 + (high - 0xD800) * 0x400 + (low - 0xDC00))
  else none

/-- Read a string literal from behind its opening quote: its characters, in reverse in front of
`done`, and the text behind its closing quote.  Once `valid` is false the string has no value. -/
def lexString (done : List Char) (valid : Bool) : List Char → Option (Option String × List Char)
  | '"' :: rest => some (if valid then some (String.ofList done.reverse) else none, rest)
  | '\\' :: 'u' :: a :: b :: c :: d :: '\\' :: 'u' :: e :: f :: g :: h :: rest =>
    match hexValue4? a b c d with
    | none => none
    | some unit =>
      if isSurrogate unit then
        match (hexValue4? e f g h).bind (pairValue? unit) with
        | some point => lexString (Char.ofNat point :: done) valid rest
        | none => lexString done false ('\\' :: 'u' :: e :: f :: g :: h :: rest)
      else lexString (Char.ofNat unit :: done) valid ('\\' :: 'u' :: e :: f :: g :: h :: rest)
  | '\\' :: 'u' :: a :: b :: c :: d :: rest =>
    match hexValue4? a b c d with
    | none => none
    | some unit =>
      if isSurrogate unit then lexString done false rest
      else lexString (Char.ofNat unit :: done) valid rest
  | '\\' :: letter :: rest =>
    match unescape? letter with
    | some c => lexString (c :: done) valid rest
    | none => none
  | c :: rest => if c = '\\' ∨ c.toNat < 0x20 then none else lexString (c :: done) valid rest
  | [] => none

/-! ### Numbers -/

/-- Split the decimal digits off the front of a text. -/
def digits (cs : List Char) : List Nat × List Char :=
  ((cs.takeWhile Char.isDigit).map (fun c => c.toNat - 48), cs.dropWhile Char.isDigit)

/-- Read a point and the digits behind it, of which there has to be one. -/
def lexFraction : List Char → Option (List Nat × List Char)
  | '.' :: cs =>
    match digits cs with
    | ([], _) => none
    | (ds, rest) => some (ds, rest)
  | cs => some ([], cs)

/-- Read the digits of an exponent, of which there has to be one. -/
def lexExponentDigits (negative : Bool) (cs : List Char) :
    Option (Option (Bool × List Nat) × List Char) :=
  match digits cs with
  | ([], _) => none
  | (ds, rest) => some (some (negative, ds), rest)

/-- Read an exponent, if there is one. -/
def lexExponent : List Char → Option (Option (Bool × List Nat) × List Char)
  | c :: cs =>
    if c = 'e' ∨ c = 'E' then
      match cs with
      | '+' :: cs => lexExponentDigits false cs
      | '-' :: cs => lexExponentDigits true cs
      | cs => lexExponentDigits false cs
    else some (none, c :: cs)
  | [] => some (none, [])

/-- The digits before the point are a single digit, or start with another digit than zero. -/
def isWhole : List Nat → Bool
  | [] => false
  | [_] => true
  | d :: _ => d ≠ 0

/-- Read a number literal from behind its sign. -/
def lexNumber (negative : Bool) (cs : List Char) : Option (Literal × List Char) :=
  if isWhole (digits cs).1 then
    (lexFraction (digits cs).2).bind fun f =>
      (lexExponent f.2).map fun e => (⟨negative, (digits cs).1, f.1, e.1⟩, e.2)
  else none

/-! ### Whole texts -/

/-- The blanks between tokens. -/
def isBlank (c : Char) : Bool := c = ' ' || c = '\n' || c = '\t' || c = '\r'

/-- The first token of a text that starts with one, and the text behind it. -/
def next? : List Char → Option (Token × List Char)
  | '[' :: rest => some (openArray, rest)
  | ']' :: rest => some (closeArray, rest)
  | '\x7b' :: rest => some (openObject, rest)
  | '\x7d' :: rest => some (closeObject, rest)
  | ',' :: rest => some (comma, rest)
  | ':' :: rest => some (colon, rest)
  | 'n' :: 'u' :: 'l' :: 'l' :: rest => some (null, rest)
  | 't' :: 'r' :: 'u' :: 'e' :: rest => some (bool true, rest)
  | 'f' :: 'a' :: 'l' :: 's' :: 'e' :: rest => some (bool false, rest)
  | '"' :: rest => (lexString [] true rest).map fun (s, rest) => (string s, rest)
  | '-' :: rest => (lexNumber true rest).map fun (l, rest) => (number l.number?, rest)
  | cs => (lexNumber false cs).map fun (l, rest) => (number l.number?, rest)

/-! ### Every token takes a character -/

theorem lexString_length_lt {done : List Char} {valid : Bool} {cs : List Char}
    {r : Option String × List Char} (h : lexString done valid cs = some r) :
    r.2.length < cs.length := by
  fun_induction lexString done valid cs <;> simp_all <;> grind

theorem digits_length_le (cs : List Char) : (digits cs).2.length ≤ cs.length :=
  (List.dropWhile_sublist _).length_le

theorem digits_length_lt {cs : List Char} (h : isWhole (digits cs).1 = true) :
    (digits cs).2.length < cs.length := by
  cases cs with
  | nil => simp [digits, isWhole] at h
  | cons c cs =>
    by_cases hc : c.isDigit
    · have := (List.dropWhile_sublist (l := cs) Char.isDigit).length_le
      simp only [digits, List.dropWhile_cons, hc, if_true, List.length_cons]
      omega
    · simp [digits, isWhole, hc] at h

theorem lexFraction_length_le {cs : List Char} {r : List Nat × List Char}
    (h : lexFraction cs = some r) : r.2.length ≤ cs.length := by
  unfold lexFraction at h
  split at h
  · rename_i cs
    have := digits_length_le cs
    split at h <;> simp_all
    grind
  · simp_all; grind

theorem lexExponentDigits_length_le {negative : Bool} {cs : List Char}
    {r : Option (Bool × List Nat) × List Char} (h : lexExponentDigits negative cs = some r) :
    r.2.length ≤ cs.length := by
  have := digits_length_le cs
  unfold lexExponentDigits at h
  split at h <;> simp_all
  grind

theorem lexExponent_length_le {cs : List Char} {r : Option (Bool × List Nat) × List Char}
    (h : lexExponent cs = some r) : r.2.length ≤ cs.length := by
  unfold lexExponent at h
  split at h
  · split at h
    · split at h <;> have := lexExponentDigits_length_le h <;> simp_all <;> omega
    · simp_all; grind
  · simp_all; grind

theorem lexNumber_length_lt {negative : Bool} {cs : List Char} {r : Literal × List Char}
    (h : lexNumber negative cs = some r) : r.2.length < cs.length := by
  unfold lexNumber at h
  split at h
  · rename_i hw
    obtain ⟨f, hf, h⟩ := Option.bind_eq_some_iff.1 h
    obtain ⟨e, he, rfl⟩ := Option.map_eq_some_iff.1 h
    have := digits_length_lt hw
    have := lexFraction_length_le hf
    have := lexExponent_length_le he
    simp only
    omega
  · simp at h

theorem next?_length_lt {cs : List Char} {r : Token × List Char} (h : next? cs = some r) :
    r.2.length < cs.length := by
  unfold next? at h
  split at h
  all_goals first
    | (simp only [Option.some.injEq] at h; subst h; simp only [List.length_cons]; omega)
    | skip
  · obtain ⟨x, hx, rfl⟩ := Option.map_eq_some_iff.1 h
    have := lexString_length_lt hx
    simp only [List.length_cons]; omega
  · obtain ⟨x, hx, rfl⟩ := Option.map_eq_some_iff.1 h
    have := lexNumber_length_lt hx
    simp only [List.length_cons]; omega
  · obtain ⟨x, hx, rfl⟩ := Option.map_eq_some_iff.1 h
    exact lexNumber_length_lt hx

/-- The tokens of a text, in front of which those of `done` stand in reverse; `none` if some part
of it is no token. -/
def lexAll (done : List Token) (cs : List Char) : Option (List Token) :=
  match _h : cs.dropWhile isBlank with
  | [] => some done.reverse
  | c :: rest =>
    match _h' : next? (c :: rest) with
    | none => none
    | some (token, after) => lexAll (token :: done) after
termination_by cs.length
decreasing_by
  have h₁ : after.length < (c :: rest).length := next?_length_lt _h'
  have h₂ := (List.dropWhile_sublist (l := cs) isBlank).length_le
  rw [_h] at h₂
  omega

/-- The tokens of a text; `none` if some part of it is no token. -/
def lex (text : List Char) : Option (List Token) := lexAll [] text

end Token

end Json

end Parley

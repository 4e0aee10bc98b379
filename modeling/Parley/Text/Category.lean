import Parley.Text.Letter
import Parley.Text.Mark
import Parley.Text.Numeral
import Parley.Text.Symbol

/-!
# Kinds of characters

Every character is of one `Category`.  From the categories come the classes that texts are read by:
word characters, blanks, and the alphabetic characters.
-/

namespace Parley.Text

/-- The kind of a character. -/
inductive Category where
  | capital
  | small
  | title
  | modifierLetter
  | otherLetter
  | nonspacing
  | spacing
  | enclosing
  | digit
  | letterNumber
  | otherNumber
  | connector
  | dash
  | opening
  | closing
  | initialQuote
  | finalQuote
  | otherPunctuation
  | math
  | currency
  | modifierSymbol
  | otherSymbol
  | space
  | lineSeparator
  | paragraphSeparator
  | control
  | format
  | privateUse
  | unassigned
deriving DecidableEq, Repr

namespace Category

/-- The kinds of letters. -/
def letters : List Category := [capital, small, title, modifierLetter, otherLetter]

/-- The kinds of marks. -/
def marks : List Category := [nonspacing, spacing, enclosing]

/-- The kinds of numbers. -/
def numbers : List Category := [digit, letterNumber, otherNumber]

/-- The kinds of punctuation. -/
def punctuation : List Category :=
  [connector, dash, opening, closing, initialQuote, finalQuote, otherPunctuation]

/-- The kinds of symbols. -/
def symbols : List Category := [math, currency, modifierSymbol, otherSymbol]

/-- The kinds of separators. -/
def separators : List Category := [space, lineSeparator, paragraphSeparator]

/-- The kinds of other characters. -/
def others : List Category := [control, format, privateUse, unassigned]

/-- The kinds that a table lists. -/
def listed : List Category :=
  letters ++ marks ++ numbers ++ punctuation ++ symbols ++ separators ++
    [control, format, privateUse]

/-- The characters that a table lists under a kind. -/
def listedChars : Category → Ranges
  | capital => capitals.union capitalsEverySecond.everySecond
  | small => smalls.union smallsEverySecond.everySecond
  | title => titleLetters
  | modifierLetter => modifierLetters
  | otherLetter => otherLetters
  | nonspacing => nonspacingMarks
  | spacing => spacingMarks
  | enclosing => enclosingMarks
  | digit => decimalDigits
  | letterNumber => letterNumbers
  | otherNumber => otherNumbers
  | connector => connectors
  | dash => dashes
  | opening => openings
  | closing => closings
  | initialQuote => initialQuotes
  | finalQuote => finalQuotes
  | otherPunctuation => Text.otherPunctuation
  | math => mathSymbols
  | currency => currencySymbols
  | modifierSymbol => modifierSymbols
  | otherSymbol => otherSymbols
  | space => spaces
  | lineSeparator => lineSeparators
  | paragraphSeparator => paragraphSeparators
  | control => controls
  | format => formats
  | privateUse => Text.privateUse
  | unassigned => #[]

/-- The characters that have been assigned, for any use. -/
def assigned : Ranges := .unions (listed.map listedChars)

/-- The characters of a kind.  What no table lists is unassigned. -/
def chars : Category → Ranges
  | unassigned => assigned.complement
  | kind => kind.listedChars

end Category

/-- The characters of any of several kinds. -/
def ofKinds (kinds : List Category) : Ranges := .unions (kinds.map Category.chars)

/-! ### Classes -/

/-- Whether a character is in a set. -/
def Ranges.has (r : Ranges) (c : Char) : Bool := r.contains c.toNat

/-- Blanks: spaces and the characters that end a line. -/
def blanks : Ranges :=
  #[(0x9, 0xD), (0x20, 0x20), (0x85, 0x85), (0xA0, 0xA0), (0x1680, 0x1680), (0x2000, 0x200A),
    (0x2028, 0x2029), (0x202F, 0x202F), (0x205F, 0x205F), (0x3000, 0x3000)]

/-- Letters that are set in a circle or a square. -/
def enclosedLetters : Ranges :=
  #[(0x24B6, 0x24E9), (0x1F130, 0x1F149), (0x1F150, 0x1F169), (0x1F170, 0x1F189)]

/-- Alphabetic characters that are neither letters nor numbers: enclosed letters, and the marks that
are spoken. -/
def furtherAlphabetic : Ranges :=
  enclosedLetters.union ((ofKinds Category.marks).without unalphabeticMarks)

/-- Alphabetic characters: letters, letters that are numbers, and what is read like letters. -/
def alphabetic : Ranges := (ofKinds (.letterNumber :: Category.letters)).union furtherAlphabetic

/-- The two characters that join or part letters. -/
def joiners : Ranges := #[(0x200C, 0x200D)]

/-- Word characters: alphabetic characters, marks, digits, connecting punctuation, and joiners. -/
def wordChars : Ranges :=
  .unions [alphabetic, ofKinds (.digit :: .connector :: Category.marks), joiners]

/-- Blanks: spaces and the characters that end a line. -/
def isBlank (c : Char) : Bool := blanks.has c

/-- Word characters. -/
def isWord (c : Char) : Bool :=
  if c.toNat < 0x80 then c.isAlphanum || c == '_' else wordChars.has c

end Parley.Text

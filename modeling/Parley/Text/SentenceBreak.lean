import Parley.Text.Casing
import Parley.Text.Punctuation

/-!
# Parts of sentences

Where a sentence ends depends on the part that each character takes in it (`SentencePart`); a
character takes one part at most.
-/

namespace Parley.Text

/-- Signs that open or close a part of a sentence without being brackets or quotation marks. -/
def furtherBrackets : Ranges :=
  #[(0x275B, 0x2760), (0x2E00, 0x2E01), (0x2E06, 0x2E08), (0x2E0B, 0x2E0B), (0x1F676, 0x1F678)]

/-- Quotation marks that neither open nor close. -/
def wideQuotes : Ranges :=
  #[(0xFF02, 0xFF02), (0xFF07, 0xFF07)]

/-- Capital letters of a script that writes sentences without them. -/
def raised : Ranges :=
  #[(0x1C90, 0x1CBA), (0x1CBD, 0x1CBF)]

/-- The part that a character takes in a sentence. -/
inductive SentencePart where
  | carriageReturn
  | lineFeed
  | separator
  | space
  | lower
  | upper
  | otherLetter
  | numeric
  | period
  | pause
  | terminal
  | close
  | extend
  | format
deriving DecidableEq, Repr

namespace SentencePart

/-- What extends the character before within a sentence. -/
def extendChars : Ranges := .unions [extending, Category.spacing.chars, .single 0x200D]

/-- Small letters that a sentence does not begin with. -/
def lowerChars : Ranges := lowercase.without (extending.union titleless)

/-- Letters that a sentence begins with. -/
def upperChars : Ranges := (uppercase.union Category.title.chars).without raised

/-- Signs that end a sentence or an abbreviation. -/
def periods : Ranges := #[(0x2E, 0x2E), (0x2024, 0x2024), (0xFE52, 0xFE52), (0xFF0E, 0xFF0E)]

/-- Blanks that end a line. -/
def separators : Ranges := #[(0x85, 0x85), (0x2028, 0x2029)]

/-- The characters that take a part. -/
def chars : SentencePart → Ranges
  | carriageReturn => .single 0xD
  | lineFeed => .single 0xA
  | separator => separators
  | space => blanks.without (.unions [.single 0xA, .single 0xD, separators])
  | lower => lowerChars
  | upper => upperChars
  | otherLetter =>
    (alphabetic.without (.unions [lowerChars, upperChars, extendChars])).union (.single 0x5F3)
  | numeric =>
    .unions [Category.digit.chars, WordPart.spokenSigns, #[(0x66B, 0x66C), (0x19DA, 0x19DA)]]
  | period => periods
  | pause =>
    #[(0x2C, 0x2D), (0x3A, 0x3B), (0x37E, 0x37E), (0x55D, 0x55D), (0x60C, 0x60D), (0x7F8, 0x7F8),
      (0x1802, 0x1802), (0x1808, 0x1808), (0x2013, 0x2014), (0x3001, 0x3001), (0xFE10, 0xFE11),
      (0xFE13, 0xFE14), (0xFE31, 0xFE32), (0xFE50, 0xFE51), (0xFE54, 0xFE55), (0xFE58, 0xFE58),
      (0xFE63, 0xFE63), (0xFF0C, 0xFF0D), (0xFF1A, 0xFF1B), (0xFF64, 0xFF64)]
  | terminal => sentenceTerminals.without periods
  | close =>
    ((ofKinds [.opening, .closing, .initialQuote, .finalQuote]).union
      (quotes.union furtherBrackets)).without wideQuotes
  | extend => extendChars
  | format => Category.format.chars.without (.unions [WordPart.spokenSigns, joiners, tags])

end SentencePart

end Parley.Text

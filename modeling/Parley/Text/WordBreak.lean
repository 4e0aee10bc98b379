import Parley.Text.Cluster
import Parley.Text.Ideograph

/-!
# Parts of words

Where a word ends depends on the part that each character takes in it (`WordPart`); a character
takes one part at most.
-/

namespace Parley.Text

/-- Letters of scripts that are written without blanks between words. -/
def unspacedLetters : Ranges :=
  #[(0xE01, 0xE30), (0xE32, 0xE33), (0xE40, 0xE46), (0xE81, 0xE82), (0xE84, 0xE84),
    (0xE86, 0xE8A), (0xE8C, 0xEA3), (0xEA5, 0xEA5), (0xEA7, 0xEB0), (0xEB2, 0xEB3),
    (0xEBD, 0xEBD), (0xEC0, 0xEC4), (0xEC6, 0xEC6), (0xEDC, 0xEDF), (0x1000, 0x102A),
    (0x103F, 0x103F), (0x1050, 0x1055), (0x105A, 0x105D), (0x1061, 0x1061), (0x1065, 0x1066),
    (0x106E, 0x1070), (0x1075, 0x1081), (0x108E, 0x108E), (0x1780, 0x17B3), (0x17D7, 0x17D7),
    (0x17DC, 0x17DC), (0x1950, 0x196D), (0x1970, 0x1974), (0x1980, 0x19AB), (0x19B0, 0x19C9),
    (0x1A20, 0x1A54), (0x1AA7, 0x1AA7), (0x3041, 0x3096), (0x309D, 0x309F), (0xA9E0, 0xA9E4),
    (0xA9E6, 0xA9EF), (0xA9FA, 0xA9FE), (0xAA60, 0xAA76), (0xAA7A, 0xAA7A), (0xAA7E, 0xAAAF),
    (0xAAB1, 0xAAB1), (0xAAB5, 0xAAB6), (0xAAB9, 0xAABD), (0xAAC0, 0xAAC0), (0xAAC2, 0xAAC2),
    (0xAADB, 0xAADD), (0x11700, 0x1171A), (0x11740, 0x11746), (0x1B001, 0x1B11F),
    (0x1B132, 0x1B132), (0x1B150, 0x1B152)]

/-- Letters of a syllabary, which are read as one word as long as no other letter comes. -/
def syllabary : Ranges :=
  #[(0x3031, 0x3035), (0x309B, 0x309C), (0x30A0, 0x30FA), (0x30FC, 0x30FF), (0x31F0, 0x31FF),
    (0x32D0, 0x32FE), (0x3300, 0x3357), (0xFF66, 0xFF9D), (0x1AFF0, 0x1AFF3), (0x1AFF5, 0x1AFFB),
    (0x1AFFD, 0x1AFFE), (0x1B000, 0x1B000), (0x1B120, 0x1B122), (0x1B155, 0x1B155),
    (0x1B164, 0x1B167)]

/-- Letters of a script that has quotes between the letters of a word. -/
def quotedLetters : Ranges :=
  #[(0x5D0, 0x5EA), (0x5EF, 0x5F2), (0xFB1D, 0xFB1D), (0xFB1F, 0xFB28), (0xFB2A, 0xFB36),
    (0xFB38, 0xFB3C), (0xFB3E, 0xFB3E), (0xFB40, 0xFB41), (0xFB43, 0xFB44), (0xFB46, 0xFB4F)]

/-- Signs that are read as letters. -/
def furtherLetters : Ranges :=
  #[(0x2C2, 0x2C5), (0x2D2, 0x2D7), (0x2DE, 0x2DF), (0x2E5, 0x2EB), (0x2ED, 0x2ED),
    (0x2EF, 0x2FF), (0x55A, 0x55C), (0x55E, 0x55E), (0x58A, 0x58A), (0x5F3, 0x5F3),
    (0x70F, 0x70F), (0xA708, 0xA716), (0xA720, 0xA721), (0xA789, 0xA78A), (0xAB5B, 0xAB5B)]

/-- The part that a character takes in a word. -/
inductive WordPart where
  | carriageReturn
  | lineFeed
  | newline
  | singleQuote
  | doubleQuote
  | hebrewLetter
  | letter
  | katakana
  | numeric
  | midLetter
  | midNumber
  | midBoth
  | connector
  | extend
  | format
  | joiner
  | flagLetter
  | space
deriving DecidableEq, Repr

namespace WordPart

/-- Signs in front of numbers, which are read with them. -/
def spokenSigns : Ranges := numberSigns.without (.single 0x70F)

/-- What extends the character before within a word. -/
def extendChars : Ranges := .unions [extending, Category.spacing.chars, tints]

/-- The characters that take a part. -/
def chars : WordPart → Ranges
  | carriageReturn => .single 0xD
  | lineFeed => .single 0xA
  | newline => #[(0xB, 0xC), (0x85, 0x85), (0x2028, 0x2029)]
  | singleQuote => .single 0x27
  | doubleQuote => .single 0x22
  | hebrewLetter => quotedLetters
  | letter =>
    (alphabetic.without (.unions [ideographs, syllabary, quotedLetters, unspacedLetters,
      extendChars])).union furtherLetters
  | katakana => syllabary
  | numeric => .unions [Category.digit.chars, spokenSigns, #[(0x66B, 0x66B), (0x19DA, 0x19DA)]]
  | midLetter =>
    #[(0x3A, 0x3A), (0xB7, 0xB7), (0x387, 0x387), (0x55F, 0x55F), (0x5F4, 0x5F4),
      (0x2027, 0x2027), (0xFE13, 0xFE13), (0xFE55, 0xFE55), (0xFF1A, 0xFF1A)]
  | midNumber =>
    #[(0x2C, 0x2C), (0x3B, 0x3B), (0x37E, 0x37E), (0x589, 0x589), (0x60C, 0x60D), (0x66C, 0x66C),
      (0x7F8, 0x7F8), (0x2044, 0x2044), (0xFE50, 0xFE50), (0xFE54, 0xFE54), (0xFF0C, 0xFF0C),
      (0xFF1B, 0xFF1B)]
  | midBoth =>
    #[(0x2E, 0x2E), (0x2018, 0x2019), (0x2024, 0x2024), (0xFE52, 0xFE52), (0xFF07, 0xFF07),
      (0xFF0E, 0xFF0E)]
  | connector => Category.connector.chars.union (.single 0x202F)
  | extend => extendChars
  | format => Category.format.chars.without (.unions [numberSigns, .single 0x200B, joiners, tags])
  | joiner => .single 0x200D
  | flagLetter => flagLetters
  | space =>
    #[(0x20, 0x20), (0x1680, 0x1680), (0x2000, 0x2006), (0x2008, 0x200A), (0x205F, 0x205F),
      (0x3000, 0x3000)]

end WordPart

end Parley.Text

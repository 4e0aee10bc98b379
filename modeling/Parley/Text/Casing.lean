import Parley.Text.Category
import Parley.Text.Fold
import Parley.Text.WordBreak

/-!
# Cases of letters

Which characters count as capital or as small, and which change when a text is put into one case.
Most changes of case are those of the letters that fold to another one; the tables list what
differs.
-/

namespace Parley.Text

/-- Characters that count as capitals without being capital letters. -/
def furtherCapitals : Ranges :=
  #[(0x2160, 0x216F), (0x24B6, 0x24CF), (0x1F130, 0x1F149), (0x1F150, 0x1F169),
    (0x1F170, 0x1F189)]

/-- Characters that count as small without being small letters. -/
def furtherSmalls : Ranges :=
  #[(0xAA, 0xAA), (0xBA, 0xBA), (0x2B0, 0x2B8), (0x2C0, 0x2C1), (0x2E0, 0x2E4), (0x345, 0x345),
    (0x37A, 0x37A), (0x10FC, 0x10FC), (0x1D2C, 0x1D6A), (0x1D78, 0x1D78), (0x1D9B, 0x1DBF),
    (0x2071, 0x2071), (0x207F, 0x207F), (0x2090, 0x209C), (0x2170, 0x217F), (0x24D0, 0x24E9),
    (0x2C7C, 0x2C7D), (0xA69C, 0xA69D), (0xA770, 0xA770), (0xA7F2, 0xA7F4), (0xA7F8, 0xA7F9),
    (0xAB5C, 0xAB5F), (0xAB69, 0xAB69), (0x10780, 0x10780), (0x10783, 0x10785),
    (0x10787, 0x107B0), (0x107B2, 0x107BA), (0x1E030, 0x1E06D)]

/-- Capital letters and what counts as such. -/
def uppercase : Ranges :=
  Category.capital.chars.union furtherCapitals

/-- Small letters and what counts as such. -/
def lowercase : Ranges :=
  Category.small.chars.union furtherSmalls

/-- Characters that have a case. -/
def cased : Ranges :=
  .unions [uppercase, lowercase, Category.title.chars]

/-- Characters that may stand between cased ones without a word being at an end. -/
def caseless : Ranges :=
  .unions [ofKinds [.nonspacing, .enclosing, .format, .modifierLetter, .modifierSymbol],
    WordPart.midLetter.chars, WordPart.midBoth.chars, WordPart.singleQuote.chars]

/-- Letters whose dot gives way to a mark above. -/
def softDotted : Ranges :=
  #[(0x69, 0x6A), (0x12F, 0x12F), (0x249, 0x249), (0x268, 0x268), (0x29D, 0x29D), (0x2B2, 0x2B2),
    (0x3F3, 0x3F3), (0x456, 0x456), (0x458, 0x458), (0x1D62, 0x1D62), (0x1D96, 0x1D96),
    (0x1DA4, 0x1DA4), (0x1DA8, 0x1DA8), (0x1E2D, 0x1E2D), (0x1ECB, 0x1ECB), (0x2071, 0x2071),
    (0x2148, 0x2149), (0x2C7C, 0x2C7C), (0x1D422, 0x1D423), (0x1D456, 0x1D457),
    (0x1D48A, 0x1D48B), (0x1D4BE, 0x1D4BF), (0x1D4F2, 0x1D4F3), (0x1D526, 0x1D527),
    (0x1D55A, 0x1D55B), (0x1D58E, 0x1D58F), (0x1D5C2, 0x1D5C3), (0x1D5F6, 0x1D5F7),
    (0x1D62A, 0x1D62B), (0x1D65E, 0x1D65F), (0x1D692, 0x1D693), (0x1DF1A, 0x1DF1A),
    (0x1E04C, 0x1E04D), (0x1E068, 0x1E068)]

/-! ### Changes of case -/

/-- Letters that fold to another one. -/
def foldable : Ranges :=
  .ofList (foldRuns.toList.flatMap fun run => run.lettersBetween run.first run.last)

/-- Letters that another one differs from in case alone. -/
def paired : Ranges :=
  foldable.union (.ofList (foldRuns.toList.flatMap fun run => run.folded run.first run.last))

/-- Letters that fold to several. -/
def furtherFoldable : Ranges :=
  #[(0xDF, 0xDF), (0x130, 0x130), (0x149, 0x149), (0x587, 0x587), (0x1E9A, 0x1E9A),
    (0x1F80, 0x1F87), (0x1F90, 0x1F97), (0x1FA0, 0x1FA7), (0x1FB2, 0x1FB4), (0x1FB7, 0x1FB7),
    (0x1FC2, 0x1FC4), (0x1FC7, 0x1FC7), (0x1FF2, 0x1FF4), (0x1FF7, 0x1FF7), (0xFB00, 0xFB04),
    (0xFB06, 0xFB06), (0xFB13, 0xFB17)]

/-- Letters that stand for a fold of several letters themselves. -/
def finalFolds : Ranges :=
  #[(0x1FBE, 0x1FBE), (0x1FD3, 0x1FD3), (0x1FE3, 0x1FE3)]

/-- Characters that change when the case of a text is folded. -/
def changedByFolding : Ranges :=
  (foldable.union furtherFoldable).without finalFolds

/-- Characters that change when a text is put into small letters. -/
def changedByLowering : Ranges :=
  (paired.meet (uppercase.union Category.title.chars)).union (.single 0x130)

/-- Small letters whose capital is not one letter that folds to them. -/
def furtherRaised : Ranges :=
  #[(0x131, 0x131), (0x149, 0x149), (0x1F0, 0x1F0), (0x587, 0x587), (0x1E96, 0x1E9A),
    (0x1F50, 0x1F50), (0x1F52, 0x1F52), (0x1F54, 0x1F54), (0x1F56, 0x1F56), (0x1FB2, 0x1FB2),
    (0x1FB4, 0x1FB4), (0x1FB6, 0x1FB7), (0x1FC2, 0x1FC2), (0x1FC4, 0x1FC4), (0x1FC6, 0x1FC7),
    (0x1FD2, 0x1FD2), (0x1FD6, 0x1FD7), (0x1FE2, 0x1FE2), (0x1FE4, 0x1FE4), (0x1FE6, 0x1FE7),
    (0x1FF2, 0x1FF2), (0x1FF4, 0x1FF4), (0x1FF6, 0x1FF7), (0xFB00, 0xFB04), (0xFB13, 0xFB17)]

/-- Characters that change when a text is put into capitals. -/
def changedByRaising : Ranges :=
  (paired.without uppercase).union furtherRaised

/-- Letters that are kept as they are at the beginning of a title. -/
def titleless : Ranges :=
  #[(0x10D0, 0x10FA), (0x10FD, 0x10FF)]

/-- Capital letters of two letters, of which the second is small in titles. -/
def digraphs : Ranges :=
  #[(0x1C4, 0x1C4), (0x1C7, 0x1C7), (0x1CA, 0x1CA), (0x1F1, 0x1F1)]

/-- Characters that change when words are put into the case of titles. -/
def changedByTitling : Ranges :=
  .unions [(paired.meet lowercase).without titleless, furtherRaised, digraphs]

/-- Characters that change when a text is put into any case. -/
def changedByCase : Ranges :=
  .unions [changedByLowering, changedByRaising, changedByTitling]

end Parley.Text

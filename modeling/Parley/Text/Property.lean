import Parley.Text.Age
import Parley.Text.Hex
import Parley.Text.Identifier
import Parley.Text.SentenceBreak
import Parley.Text.SharedScripts

/-!
# Classes of characters by name

Classes are asked for by name: a general category, a script or a property.  The case of letters,
blanks, hyphens, underscores and a leading `is` make no difference in a name.  `property?` finds the
class of a name, and `propertyValue?` that of a name and a value, such as the script `greek`.

Where a name stands for several classes, properties come before categories, and categories before
scripts.
-/

namespace Parley.Text

/-- A name without what makes no difference in it. -/
def plainName (name : List Char) : String :=
  let plain (cs : List Char) : List Char :=
    (cs.filter fun c => c.toNat < 0x80 && c != ' ' && c != '_' && c != '-').map Char.toLower
  match name with
  | a :: b :: rest =>
    if a.toLower = 'i' ∧ b.toLower = 's' then
      let stem := plain rest
      String.ofList (if stem = ['c'] then ['i', 's', 'c'] else stem)
    else String.ofList (plain name)
  | _ => String.ofList (plain name)

/-- The general categories and their groups, by name. -/
def categoryNames : List (List String × List Category) :=
  [(["l", "letter"], Category.letters),
    (["lc", "casedletter"], [.capital, .small, .title]),
    (["lu", "uppercaseletter"], [.capital]),
    (["ll", "lowercaseletter"], [.small]),
    (["lt", "titlecaseletter"], [.title]),
    (["lm", "modifierletter"], [.modifierLetter]),
    (["lo", "otherletter"], [.otherLetter]),
    (["m", "mark", "combiningmark"], Category.marks),
    (["mn", "nonspacingmark"], [.nonspacing]),
    (["mc", "spacingmark"], [.spacing]),
    (["me", "enclosingmark"], [.enclosing]),
    (["n", "number"], Category.numbers),
    (["nd", "decimalnumber", "digit"], [.digit]),
    (["nl", "letternumber"], [.letterNumber]),
    (["no", "othernumber"], [.otherNumber]),
    (["p", "punctuation", "punct"], Category.punctuation),
    (["pc", "connectorpunctuation"], [.connector]),
    (["pd", "dashpunctuation"], [.dash]),
    (["ps", "openpunctuation"], [.opening]),
    (["pe", "closepunctuation"], [.closing]),
    (["pi", "initialpunctuation"], [.initialQuote]),
    (["pf", "finalpunctuation"], [.finalQuote]),
    (["po", "otherpunctuation"], [.otherPunctuation]),
    (["s", "symbol"], Category.symbols),
    (["sm", "mathsymbol"], [.math]),
    (["sc", "currencysymbol"], [.currency]),
    (["sk", "modifiersymbol"], [.modifierSymbol]),
    (["so", "othersymbol"], [.otherSymbol]),
    (["z", "separator"], Category.separators),
    (["zs", "spaceseparator"], [.space]),
    (["zl", "lineseparator"], [.lineSeparator]),
    (["zp", "paragraphseparator"], [.paragraphSeparator]),
    (["c", "other"], Category.others),
    (["cc", "control", "cntrl"], [.control]),
    (["cf", "format"], [.format]),
    (["co", "privateuse"], [.privateUse]),
    (["cn", "unassigned"], [.unassigned])]

/-- The properties, by name. -/
def properties : List (List String × Ranges) :=
  [(["ahex", "asciihexdigit"], #[(0x30, 0x39), (0x41, 0x46), (0x61, 0x66)]),
    (["hex", "hexdigit"], #[(0x30, 0x39), (0x41, 0x46), (0x61, 0x66), (0xFF10, 0xFF19),
      (0xFF21, 0xFF26), (0xFF41, 0xFF46)]),
    (["alpha", "alphabetic"], alphabetic),
    (["oalpha", "otheralphabetic"], furtherAlphabetic),
    (["upper", "uppercase"], uppercase),
    (["oupper", "otheruppercase"], furtherCapitals),
    (["lower", "lowercase"], lowercase),
    (["olower", "otherlowercase"], furtherSmalls),
    (["cased"], cased),
    (["ci", "caseignorable"], caseless),
    (["sd", "softdotted"], softDotted),
    (["cwcf", "changeswhencasefolded"], changedByFolding),
    (["cwcm", "changeswhencasemapped"], changedByCase),
    (["cwl", "changeswhenlowercased"], changedByLowering),
    (["cwt", "changeswhentitlecased"], changedByTitling),
    (["cwu", "changeswhenuppercased"], changedByRaising),
    (["whitespace", "wspace", "space"], blanks),
    (["dash"], dashSigns),
    (["hyphen"], hyphens),
    (["qmark", "quotationmark"], quotes),
    (["term", "terminalpunctuation"], terminals),
    (["sterm", "sentenceterminal"], sentenceTerminals),
    (["bidim", "bidimirrored"], mirrored),
    (["math"], mathSigns),
    (["omath", "othermath"], furtherMath),
    (["bidic", "bidicontrol"], directionControls),
    (["vs", "variationselector"], variationSelectors),
    (["joinc", "joincontrol"], joiners),
    (["pcm", "prependedconcatenationmark"], numberSigns),
    (["dep", "deprecated"], deprecated),
    (["nchar", "noncharactercodepoint"], nonCharacters),
    (["di", "defaultignorablecodepoint"], ignorable),
    (["odi", "otherdefaultignorablecodepoint"], furtherIgnorable),
    (["grbase", "graphemebase"], clusterBases),
    (["grext", "graphemeextend"], extending),
    (["ogrext", "othergraphemeextend"], furtherExtending),
    (["grlink", "graphemelink"], linkers),
    (["mcm", "modifiercombiningmark"], reorderedMarks),
    (["dia", "diacritic"], diacritics),
    (["ext", "extender"], extenders),
    (["loe", "logicalorderexception"], leadingVowels),
    (["ideo", "ideographic"], ideographs),
    (["uideo", "unifiedideograph"], unifiedIdeographs),
    (["radical"], radicals),
    (["idsb", "idsbinaryoperator"], ideographPairings),
    (["idst", "idstrinaryoperator"], ideographTriples),
    (["idsu", "idsunaryoperator"], ideographTurns),
    (["ids", "idstart"], nameStarts),
    (["idc", "idcontinue"], nameContinues),
    (["oids", "otheridstart"], furtherStarts),
    (["oidc", "otheridcontinue"], furtherContinues),
    (["xids", "xidstart"], stableStarts),
    (["xidc", "xidcontinue"], stableContinues),
    (["idcompatmathstart"], mathStarts),
    (["idcompatmathcontinue"], mathContinues),
    (["patsyn", "patternsyntax"], syntaxSigns),
    (["patws", "patternwhitespace"], syntaxBlanks),
    (["emoji"], emoji),
    (["epres", "emojipresentation"], pictures),
    (["ebase", "emojimodifierbase"], tintable),
    (["emod", "emojimodifier"], tints),
    (["ecomp", "emojicomponent"], emojiParts),
    (["extpict", "extendedpictographic"], pictographs),
    (["ri", "regionalindicator"], flagLetters)]

/-- The parts of clusters, by name. -/
def clusterPartNames : List (List String × ClusterPart) :=
  [(["cr"], .carriageReturn),
    (["lf"], .lineFeed),
    (["cn", "control"], .control),
    (["ex", "extend"], .extend),
    (["zwj"], .joiner),
    (["ri", "regionalindicator"], .flagLetter),
    (["pp", "prepend"], .prepend),
    (["sm", "spacingmark"], .spacingMark),
    (["l"], .leadingConsonant),
    (["v"], .vowel),
    (["t"], .trailingConsonant),
    (["lv"], .openSyllable),
    (["lvt"], .closedSyllable)]

/-- The parts of words, by name. -/
def wordPartNames : List (List String × WordPart) :=
  [(["cr"], .carriageReturn),
    (["lf"], .lineFeed),
    (["nl", "newline"], .newline),
    (["sq", "singlequote"], .singleQuote),
    (["dq", "doublequote"], .doubleQuote),
    (["hl", "hebrewletter"], .hebrewLetter),
    (["le", "aletter"], .letter),
    (["ka", "katakana"], .katakana),
    (["nu", "numeric"], .numeric),
    (["ml", "midletter"], .midLetter),
    (["mn", "midnum"], .midNumber),
    (["mb", "midnumlet"], .midBoth),
    (["ex", "extendnumlet"], .connector),
    (["extend"], .extend),
    (["fo", "format"], .format),
    (["zwj"], .joiner),
    (["ri", "regionalindicator"], .flagLetter),
    (["wsegspace"], .space)]

/-- The parts of sentences, by name. -/
def sentencePartNames : List (List String × SentencePart) :=
  [(["cr"], .carriageReturn),
    (["lf"], .lineFeed),
    (["se", "sep"], .separator),
    (["sp"], .space),
    (["lo", "lower"], .lower),
    (["up", "upper"], .upper),
    (["le", "oletter"], .otherLetter),
    (["nu", "numeric"], .numeric),
    (["at", "aterm"], .period),
    (["sc", "scontinue"], .pause),
    (["st", "sterm"], .terminal),
    (["cl", "close"], .close),
    (["ex", "extend"], .extend),
    (["fo", "format"], .format)]

/-- What is listed under one of several names. -/
def named? {α : Type} (table : List (List String × α)) (name : String) : Option α :=
  (table.find? fun entry => entry.1.contains name).map Prod.snd

/-- The class of a general category. -/
def category? (name : String) : Option Ranges :=
  match name with
  | "any" => some (.between 0 0x10FFFF)
  | "assigned" => some Category.assigned
  | "ascii" => some (.between 0 0x7F)
  | name => (named? categoryNames name).map ofKinds

/-- The class of a name: a property, a general category or a script. -/
def property? (name : List Char) : Option Ranges :=
  let name := plainName name
  (named? properties name).or ((category? name).or ((script? name).map Prod.snd))

/-- The class of a name and a value. -/
def propertyValue? (name value : List Char) : Option Ranges :=
  let value := plainName value
  match plainName name with
  | "gc" | "generalcategory" => category? value
  | "sc" | "script" => (script? value).map Prod.snd
  | "scx" | "scriptextensions" => scriptUse? value
  | "age" => age? value
  | "gcb" | "graphemeclusterbreak" => (named? clusterPartNames value).map ClusterPart.chars
  | "wb" | "wordbreak" => (named? wordPartNames value).map WordPart.chars
  | "sb" | "sentencebreak" => (named? sentencePartNames value).map SentencePart.chars
  | _ => none

end Parley.Text

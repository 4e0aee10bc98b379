import Parley.Json.Token
import Parley.Json.Value

/-!
# JSON documents

A `Document` is a JSON text after parsing and before decoding: members in the order of the text,
keys possibly repeated, numbers and strings possibly without a value (see `Token`).  It may nest
to any depth.

Parsing is a pushdown machine on tokens.  `Machine.step` takes one token; the machine keeps the
containers that are open, innermost first, and what may come next.  `Document.ofTokens?` runs it
over a whole text.  Beside it stands the writer: `Document.tokens` lists the tokens of a document,
and `Document.chars` spells them without blanks.
-/

namespace Parley

/-- A parsed JSON text. -/
inductive Document where
  | null
  | bool (value : Bool)
  | number (value : Option Json.Number)
  | string (value : Option String)
  | array (items : List Document)
  | object (members : List (Option String × Document))
deriving Repr, Inhabited

namespace Document

open Json (Token)

/-! ### Writing -/

mutual

/-- The tokens of a document. -/
def tokens : Document → List Token
  | .null => [.null]
  | .bool b => [.bool b]
  | .number n => [.number n]
  | .string s => [.string s]
  | .array [] => [.openArray, .closeArray]
  | .array (v :: rest) => .openArray :: (v.tokens ++ itemTokens rest)
  | .object [] => [.openObject, .closeObject]
  | .object ((k, v) :: rest) =>
    .openObject :: .string k :: .colon :: (v.tokens ++ memberTokens rest)

/-- The tokens of an array behind its first item. -/
def itemTokens : List Document → List Token
  | [] => [.closeArray]
  | v :: rest => .comma :: (v.tokens ++ itemTokens rest)

/-- The tokens of an object behind its first member. -/
def memberTokens : List (Option String × Document) → List Token
  | [] => [.closeObject]
  | (k, v) :: rest => .comma :: .string k :: .colon :: (v.tokens ++ memberTokens rest)

end

/-- The text of a document, without blanks. -/
def chars (d : Document) : List Char := d.tokens.flatMap Token.chars

/-! ### Parsing -/

/-- An open container with what it holds so far, last first. -/
inductive Context where
  | items (done : List Document)
  | members (done : List (Option String × Document)) (key : Option String)
deriving Repr

/-- What may come next. -/
inductive Expected where
  /-- A value. -/
  | value
  /-- The first item of an array, or its end. -/
  | firstItem
  /-- The first key of an object, or its end. -/
  | firstKey
  /-- A further key. -/
  | key
  /-- The colon behind a key. -/
  | colon
  /-- A comma, or the end of the innermost container. -/
  | separator
deriving DecidableEq, Repr

/-- The state of the parser. -/
inductive Machine where
  | running (opened : List Context) (expected : Expected)
  | finished (result : Document)
deriving Repr

namespace Machine

/-- A value is complete: it joins the innermost container, or is the whole text. -/
def complete (opened : List Context) (d : Document) : Machine :=
  match opened with
  | [] => finished d
  | .items done :: rest => running (.items (d :: done) :: rest) .separator
  | .members done key :: rest => running (.members ((key, d) :: done) key :: rest) .separator

/-- A value starts with this token. -/
def startValue (opened : List Context) : Token → Option Machine
  | .null => some (complete opened .null)
  | .bool b => some (complete opened (.bool b))
  | .number n => some (complete opened (.number n))
  | .string s => some (complete opened (.string s))
  | .openArray => some (running (.items [] :: opened) .firstItem)
  | .openObject => some (running (.members [] none :: opened) .firstKey)
  | _ => none

/-- Take one token. -/
def step : Machine → Token → Option Machine
  | finished _, _ => none
  | running opened .value, t => startValue opened t
  | running (.items done :: rest) .firstItem, .closeArray =>
    some (complete rest (.array done.reverse))
  | running opened .firstItem, t => startValue opened t
  | running (.members done _ :: rest) .firstKey, .closeObject =>
    some (complete rest (.object done.reverse))
  | running (.members done _ :: rest) .firstKey, .string k =>
    some (running (.members done k :: rest) .colon)
  | running (.members done _ :: rest) .key, .string k =>
    some (running (.members done k :: rest) .colon)
  | running opened .colon, .colon => some (running opened .value)
  | running (.items done :: rest) .separator, .comma => some (running (.items done :: rest) .value)
  | running (.items done :: rest) .separator, .closeArray =>
    some (complete rest (.array done.reverse))
  | running (.members done k :: rest) .separator, .comma =>
    some (running (.members done k :: rest) .key)
  | running (.members done _ :: rest) .separator, .closeObject =>
    some (complete rest (.object done.reverse))
  | _, _ => none

/-- Take tokens one after the other. -/
def run (m : Machine) (ts : List Token) : Option Machine := ts.foldlM step m

end Machine

/-- The document that a list of tokens writes. -/
def ofTokens? (ts : List Token) : Option Document :=
  match Machine.run (.running [] .value) ts with
  | some (.finished d) => some d
  | _ => none

/-- The document of a text. -/
def parse? (text : String) : Option Document := (Token.lex text.toList).bind ofTokens?

end Document

/-! ### Values as documents -/

namespace Json

mutual

/-- A value as a document. -/
def document : Json → Document
  | .null => .null
  | .bool b => .bool b
  | .number n => .number (some n)
  | .string s => .string (some s)
  | .array items => .array (itemDocuments items)
  | .object members => .object (memberDocuments members)

@[inherit_doc document]
def itemDocuments : List Json → List Document
  | [] => []
  | v :: rest => v.document :: itemDocuments rest

@[inherit_doc document]
def memberDocuments : List (String × Json) → List (Option String × Document)
  | [] => []
  | (k, v) :: rest => (some k, v.document) :: memberDocuments rest

end

/-- The text of a value, without blanks and with members in their order. -/
def render (v : Json) : String := String.ofList v.document.chars

/-! ### Values inside sentences -/

mutual

/-- The text that a value stands for inside a sentence: nothing for null, a string itself, the
texts of a list with commas between them, and the JSON text of anything else. -/
def toText : Json → String
  | .null => ""
  | .string text => text
  | .array items => ",".intercalate (itemTexts items)
  | v@(.bool _) | v@(.number _) | v@(.object _) => v.render

@[inherit_doc toText]
def itemTexts : List Json → List String
  | [] => []
  | v :: rest => v.toText :: itemTexts rest

end

end Json

end Parley

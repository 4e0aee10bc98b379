import Parley.Json.Document

/-!
# Decoding documents

A `Decoder α` reads an `α` out of a document, or refuses it.  The rules it is built from:

* a decoder may open at most as many containers inside each other as it is given (`depthLimit`
  for a whole text), but what no decoder looks at may nest to any depth and may hold numbers and
  strings without a value;
* a record is an object whose unknown members are ignored and whose known ones occur at most once,
  or an array of the record's fields in their order, from whose end optional fields may be missing;
* a table and a free value take the last of several members with one key;
* an optional field takes null as absent;
* a named choice is the name, or an object of one member with that name and null.
-/

namespace Parley

/-- Reads an `α` out of a document while a number of containers may still be opened. -/
abbrev Decoder (α : Type) := Nat → Document → Option α

namespace Document

mutual

/-- How deep the containers of a document nest. -/
def depth : Document → Nat
  | .array items => itemsDepth items + 1
  | .object members => membersDepth members + 1
  | _ => 0

@[inherit_doc depth]
def itemsDepth : List Document → Nat
  | [] => 0
  | d :: rest => max d.depth (itemsDepth rest)

@[inherit_doc depth]
def membersDepth : List (Option String × Document) → Nat
  | [] => 0
  | (_, d) :: rest => max d.depth (membersDepth rest)

end

end Document

namespace Decoder

variable {α : Type}

/-- A text may open this many containers inside each other, where a decoder looks. -/
def depthLimit : Nat := 127

/-- Decode a whole text. -/
def text? (d : Decoder α) (text : String) : Option α := (Document.parse? text).bind (d depthLimit)

/-- Decode a document of any depth. -/
def document? (d : Decoder α) (doc : Document) : Option α := d doc.depth doc

/-- Decode a value of any depth. -/
def json? (d : Decoder α) (v : Json) : Option α := d.document? v.document

/-! ### Simple values -/

/-- A string with a value. -/
def string : Decoder String
  | _, .string s => s
  | _, _ => none

/-- True or false. -/
def bool : Decoder Bool
  | _, .bool b => some b
  | _, _ => none

/-- An integer from zero up to below a bound. -/
def natural (bound : Nat) : Decoder Nat
  | _, .number (some (.integer n)) => if 0 ≤ n ∧ n.toNat < bound then some n.toNat else none
  | _, _ => none

/-- An index of 64 bits. -/
def index : Decoder Nat := natural (Nat.pow 2 64)

/-- A word of 32 bits. -/
def word32 : Decoder UInt32 := fun depth d => (natural (Nat.pow 2 32) depth d).map (·.toUInt32)

mutual

/-- Any value. -/
def json : Nat → Document → Option Json
  | _, .null => some .null
  | _, .bool b => some (.bool b)
  | _, .number n => n.map .number
  | _, .string s => s.map .string
  | 0, .array _ => none
  | depth + 1, .array items => (jsonItems depth items).map .array
  | 0, .object _ => none
  | depth + 1, .object members => (jsonMembers depth [] members).map .object

/-- The items of an array. -/
def jsonItems : Nat → List Document → Option (List Json)
  | _, [] => some []
  | depth, d :: rest => (json depth d).bind fun v => (jsonItems depth rest).map (v :: ·)

/-- The members of an object, added to those before them. -/
def jsonMembers : Nat → Vars → List (Option String × Document) → Option Vars
  | _, done, [] => some done
  | _, _, (none, _) :: _ => none
  | depth, done, (some key, d) :: rest =>
    (json depth d).bind fun v => jsonMembers depth (done.insert key v) rest

end

/-! ### Lists, tables and optional values -/

/-- Null as absent, anything else as the value itself. -/
def optional (d : Decoder α) : Decoder (Option α)
  | _, .null => some none
  | depth, doc => (d depth doc).map some

/-- A list of values. -/
def list (d : Decoder α) : Decoder (List α)
  | depth + 1, .array items => items.mapM (d depth)
  | _, _ => none

/-- A table of values under their keys. -/
def table (d : Decoder α) : Decoder (Keyed α)
  | depth + 1, .object members =>
    members.foldlM (fun done (key, doc) => do return done.insert (← key) (← d depth doc)) []
  | _, _ => none

/-- A table of free values. -/
def vars : Decoder Vars := table json

/-! ### Named choices -/

/-- One of several names. -/
def choice (names : List (String × α)) : Decoder α
  | _, .string s => s.bind (List.lookup · names)
  | _ + 1, .object [(some key, .null)] => List.lookup key names
  | _, _ => none

/-! ### Records -/

/-- The fields of a record, as documents in which further containers may be opened. -/
structure Fields where
  depth : Nat
  field? : String → Option Document

/-- Keep the members with a known key, and fail at a key without a value or a known key that comes
again. -/
def knownMembers (names : List String) :
    List (Option String × Document) → List (String × Document) → Option (List (String × Document))
  | [], done => some done
  | (none, _) :: _, _ => none
  | (some key, d) :: rest, done =>
    if key ∈ names then
      if (List.lookup key done).isSome then none else knownMembers names rest ((key, d) :: done)
    else knownMembers names rest done

/-- A record with these fields, given in their order. -/
def record (names : List String) (read : Fields → Option α) : Decoder α
  | depth + 1, .object members =>
    (knownMembers names members []).bind fun known => read ⟨depth, (List.lookup · known)⟩
  | depth + 1, .array items =>
    if items.length ≤ names.length then read ⟨depth, (List.lookup · (names.zip items))⟩ else none
  | _, _ => none

namespace Fields

/-- A field that has to be there. -/
def required (f : Fields) (name : String) (d : Decoder α) : Option α :=
  (f.field? name).bind (d f.depth)

/-- A field that may be missing. -/
def orElse (f : Fields) (name : String) (d : Decoder α) (missing : α) : Option α :=
  match f.field? name with
  | none => some missing
  | some doc => d f.depth doc

/-- A field that may be missing or null. -/
def optional (f : Fields) (name : String) (d : Decoder α) : Option (Option α) :=
  f.orElse name (Decoder.optional d) none

end Fields

end Decoder

namespace Json

/-- A member that is left out when its value is absent. -/
def memberIf (name : String) (v : Option Json) : List (String × Json) :=
  match v with
  | none => []
  | some v => [(name, v)]

end Json

end Parley

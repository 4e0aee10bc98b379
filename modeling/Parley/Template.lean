import Parley.Json.Document
import Parley.Text.Category

/-!
# Templates

A template is text with tags in it.  A tag names a path into the variables, such as
`vars.user.name`, and stands for the text of the value found there:

* three braces on either side: the text as it is;
* two braces on either side: the text with the characters of markup written as entities, or, with
  an ampersand in front of the path, the text as it is.

Blanks may stand inside the braces around the ampersand and the path.  Everything else, also what
looks almost like a tag, stands for itself.  `Template.pieces` cuts a template into single
characters and tags, from left to right; `Template.render` fills the tags in.  What a tag stands for
is not looked at again.
-/

namespace Parley

namespace Template

/-! ### Tags -/

/-- A place to be filled. -/
structure Tag where
  path : List Char
  /-- The text is taken as it is. -/
  raw : Bool
deriving DecidableEq, Repr

/-- The characters of a path. -/
def isPathChar (c : Char) : Bool := Text.isWord c || c == '.' || c == '-'

/-- What follows an expected beginning. -/
def after? : List Char → List Char → Option (List Char)
  | [], cs => some cs
  | e :: es, c :: cs => if e = c then after? es cs else none
  | _ :: _, [] => none

/-- What follows the blanks at the beginning. -/
def afterBlanks (cs : List Char) : List Char := cs.dropWhile Text.isBlank

/-- A path at the beginning, all of it, and what follows it and the blanks behind it. -/
def path? (cs : List Char) : Option (List Char × List Char) :=
  let path := cs.takeWhile isPathChar
  if path.isEmpty then none else some (path, afterBlanks (cs.dropWhile isPathChar))

/-- What follows an ampersand and the blanks behind it. -/
def afterAmpersand? : List Char → Option (List Char)
  | '&' :: rest => some (afterBlanks rest)
  | _ => none

/-- The opening and closing braces of a tag that is never escaped. -/
def tripleOpen : List Char := ['\x7b', '\x7b', '\x7b']

@[inherit_doc tripleOpen]
def tripleClose : List Char := ['\x7d', '\x7d', '\x7d']

/-- The opening and closing braces of a tag that may be escaped. -/
def doubleOpen : List Char := ['\x7b', '\x7b']

@[inherit_doc doubleOpen]
def doubleClose : List Char := ['\x7d', '\x7d']

/-- A tag with three braces at the beginning, and what follows it. -/
def triple? (cs : List Char) : Option (Tag × List Char) := do
  let inner ← after? tripleOpen cs
  let (path, rest) ← path? (afterBlanks inner)
  let rest ← after? tripleClose rest
  return (⟨path, true⟩, rest)

/-- A tag with two braces at the beginning, and what follows it. -/
def double? (cs : List Char) : Option (Tag × List Char) := do
  let inner ← after? doubleOpen cs
  let inner := afterBlanks inner
  let (path, rest) ← path? ((afterAmpersand? inner).getD inner)
  let rest ← after? doubleClose rest
  return (⟨path, (afterAmpersand? inner).isSome⟩, rest)

/-- A tag at the beginning, and what follows it. -/
def tag? (cs : List Char) : Option (Tag × List Char) := (triple? cs).or (double? cs)

/-! ### Every tag takes something -/

theorem length_of_after? {expected cs rest : List Char} (h : after? expected cs = some rest) :
    cs.length = expected.length + rest.length := by
  induction expected generalizing cs with
  | nil => simp only [after?, Option.some.injEq] at h; simp [h]
  | cons e es ih =>
    cases cs with
    | nil => simp [after?] at h
    | cons c cs =>
      simp only [after?] at h
      split at h
      · have := ih h; simp only [List.length_cons]; omega
      · cases h

theorem length_afterBlanks_le (cs : List Char) : (afterBlanks cs).length ≤ cs.length :=
  (List.dropWhile_sublist _).length_le

theorem length_le_of_path? {cs path rest : List Char} (h : path? cs = some (path, rest)) :
    rest.length ≤ cs.length := by
  simp only [path?] at h
  split at h
  · cases h
  · simp only [Option.some.injEq, Prod.mk.injEq] at h
    rw [← h.2]
    exact Nat.le_trans (length_afterBlanks_le _) (List.dropWhile_sublist _).length_le

theorem length_getD_afterAmpersand?_le (cs : List Char) :
    ((afterAmpersand? cs).getD cs).length ≤ cs.length := by
  unfold afterAmpersand?
  split
  · exact Nat.le_trans (length_afterBlanks_le _) (Nat.le_succ _)
  · exact Nat.le_refl _

theorem length_lt_of_triple? {cs rest : List Char} {tag : Tag} (h : triple? cs = some (tag, rest)) :
    rest.length < cs.length := by
  simp only [triple?, bind, pure, Option.bind_eq_some_iff, Prod.exists, Option.some.injEq,
    Prod.mk.injEq] at h
  obtain ⟨inner, hi, path, behind, hp, after, ha, -, rfl⟩ := h
  have h₁ := length_of_after? hi
  have h₂ := length_le_of_path? hp
  have h₃ := length_of_after? ha
  have h₄ := length_afterBlanks_le inner
  simp only [tripleOpen, List.length_cons] at h₁
  omega

theorem length_lt_of_double? {cs rest : List Char} {tag : Tag} (h : double? cs = some (tag, rest)) :
    rest.length < cs.length := by
  simp only [double?, bind, pure, Option.bind_eq_some_iff, Prod.exists, Option.some.injEq,
    Prod.mk.injEq] at h
  obtain ⟨inner, hi, path, behind, hp, after, ha, -, rfl⟩ := h
  have h₁ := length_of_after? hi
  have h₂ := length_le_of_path? hp
  have h₃ := length_of_after? ha
  have h₄ := length_afterBlanks_le inner
  have h₅ := length_getD_afterAmpersand?_le (afterBlanks inner)
  simp only [doubleOpen, List.length_cons] at h₁
  omega

theorem length_lt_of_tag? {cs rest : List Char} {tag : Tag} (h : tag? cs = some (tag, rest)) :
    rest.length < cs.length := by
  unfold tag? at h
  cases ht : triple? cs with
  | some found =>
    rw [ht] at h
    obtain rfl := Option.some.inj h
    exact length_lt_of_triple? ht
  | none => rw [ht] at h; exact length_lt_of_double? h

/-! ### Pieces -/

/-- A character that stands for itself, or a tag. -/
inductive Piece where
  | char (c : Char)
  | tag (t : Tag)
deriving DecidableEq, Repr

/-- The pieces of a template.  A tag is taken at the first place where one begins. -/
def pieces (cs : List Char) : List Piece :=
  match cs with
  | [] => []
  | c :: rest =>
    match h : tag? (c :: rest) with
    | some (tag, behind) =>
      have := length_lt_of_tag? h
      .tag tag :: pieces behind
    | none => .char c :: pieces rest
termination_by cs.length
decreasing_by
  · exact length_lt_of_tag? h
  · exact Nat.lt_succ_self rest.length

/-! ### Looking up -/

/-- The steps of a path: what stands between its dots. -/
def steps : List Char → List (List Char)
  | [] => [[]]
  | c :: rest =>
    if c = '.' then [] :: steps rest
    else match steps rest with
      | [] => [[c]]
      | step :: more => (c :: step) :: more

/-- The number that decimal digits write, if they are digits and there is one. -/
def listIndex? (step : List Char) : Option Nat :=
  if step.isEmpty || !step.all Char.isDigit then none
  else some (step.foldl (fun n c => n * 10 + (c.toNat - 48)) 0)

/-- The part of a value that a step leads to: the member of an object, or the item of a list. -/
def step? (v : Json) (step : List Char) : Option Json :=
  match v with
  | .object _ => v.member? (String.ofList step)
  | .array items => (listIndex? step).bind (items[·]?)
  | _ => none

/-- The step that every path starts with. -/
def rootStep : List Char := "vars".toList

/-- The value at a path: its first step is `vars`, its second the name of a variable. -/
def lookup (path : List Char) (vars : Vars) : Option Json :=
  match steps path with
  | root :: name :: rest =>
    if root = rootStep then (Keyed.get? vars (String.ofList name)).bind (rest.foldlM step?)
    else none
  | _ => none

/-! ### Filling in -/

/-- A character with a meaning in markup, written as an entity. -/
def entity (c : Char) : List Char :=
  match c with
  | '&' => "&amp;".toList
  | '<' => "&lt;".toList
  | '>' => "&gt;".toList
  | '"' => "&quot;".toList
  | '\'' => "&#39;".toList
  | '/' => "&#x2F;".toList
  | '\x60' => "&#x60;".toList
  | '=' => "&#x3D;".toList
  | c => [c]

/-- A text with the characters of markup written as entities. -/
def escape (text : List Char) : List Char := text.flatMap entity

/-- The text that a tag stands for; nothing if its path leads nowhere. -/
def Tag.text (t : Tag) (vars : Vars) : List Char :=
  let found := ((lookup t.path vars).map Json.toText).getD ""
  if t.raw then found.toList else escape found.toList

/-- The text that a piece stands for. -/
def Piece.text (vars : Vars) : Piece → List Char
  | .char c => [c]
  | .tag t => t.text vars

/-- Fill in a template. -/
def render (template : String) (vars : Vars) : String :=
  String.ofList ((pieces template.toList).flatMap (Piece.text vars))

mutual

/-- Fill in every string of a value.  The keys of objects are no templates. -/
def renderValue (vars : Vars) : Json → Json
  | .string text => .string (render text vars)
  | .array items => .array (renderItems vars items)
  | .object members => .object (renderMembers vars members)
  | v@.null | v@(.bool _) | v@(.number _) => v

@[inherit_doc renderValue]
def renderItems (vars : Vars) : List Json → List Json
  | [] => []
  | v :: rest => renderValue vars v :: renderItems vars rest

@[inherit_doc renderValue]
def renderMembers (vars : Vars) : List (String × Json) → List (String × Json)
  | [] => []
  | (key, v) :: rest => (key, renderValue vars v) :: renderMembers vars rest

end

end Template

end Parley

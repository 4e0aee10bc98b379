/-!
# Paths

A path is a text, and it is shown to people as it was given.  What it says is in its segments, the
texts between the slashes: `Path.steps` reads them as steps to a file.  Empty segments and single
dots stay where they are, so they are no steps, except for a dot with which a relative path begins.

`Path.join` takes a path relative to another one.  `Path.cut_ne_nil`, `Path.cut_of_plain` and
`Path.cut_append` say what the cut of a text is.
-/

namespace Parley

/-- One step on the way to a file. -/
inductive Step where
  /-- To the root of the file system. -/
  | root
  /-- To where a relative path begins. -/
  | current
  /-- To the directory above. -/
  | parent
  /-- To an entry of the directory. -/
  | name (text : String)
deriving DecidableEq, Repr, Inhabited

namespace Path

/-- What stands between the segments of a path. -/
def separator : Char := '/'

/-! ### Segments -/

/-- Cut a text at its slashes. -/
def cut : List Char → List (List Char)
  | [] => [[]]
  | c :: rest =>
    if c = separator then [] :: cut rest
    else match cut rest with
      | [] => [[c]]
      | segment :: more => (c :: segment) :: more

/-- The texts between the slashes of a path, empty ones included. -/
def segments (path : String) : List String := (cut path.toList).map String.ofList

theorem cut_ne_nil (cs : List Char) : cut cs ≠ [] := by
  cases cs with
  | nil => simp [cut]
  | cons c rest =>
    simp only [cut]
    split
    · simp
    · split <;> simp

theorem cut_of_plain {cs : List Char} (h : separator ∉ cs) : cut cs = [cs] := by
  induction cs with
  | nil => rfl
  | cons c rest ih =>
    simp only [List.mem_cons, not_or] at h
    simp [cut, Ne.symm h.1, ih h.2]

/-- The segments of two texts with a slash between them are the segments of both. -/
theorem cut_append (front back : List Char) :
    cut (front ++ separator :: back) = cut front ++ cut back := by
  induction front with
  | nil => simp [cut]
  | cons c rest ih =>
    by_cases hc : c = separator
    · simp [cut, hc, ih]
    · simp only [List.cons_append, cut, hc, if_false, ih]
      cases hrest : cut rest with
      | nil => exact absurd hrest (cut_ne_nil rest)
      | cons segment more => simp

/-! ### Steps -/

/-- What a segment says, if it leads anywhere. -/
def stepOf? (segment : String) : Option Step :=
  if segment = "" ∨ segment = "." then none
  else if segment = ".." then some .parent
  else some (.name segment)

/-- How a path begins. -/
def origin : List String → List Step
  | "" :: _ :: _ => [.root]
  | "." :: _ => [.current]
  | _ => []

/-- The steps of a path. -/
def steps (path : String) : List Step :=
  origin (segments path) ++ (segments path).filterMap stepOf?

/-- Whether a step goes down into a directory. -/
def Descends : Step → Prop
  | .name _ => True
  | _ => False

instance : DecidablePred Descends := fun s => by cases s <;> simp only [Descends] <;> infer_instance

/-- A path begins at the root. -/
def isAbsolute (path : String) : Bool := path.toList.head? = some separator

/-! ### Joining -/

/-- A path relative to another one. -/
def join (base path : String) : String :=
  if isAbsolute path ∨ base = "" then path
  else if base.toList.getLast? = some separator then base ++ path
  else base ++ String.ofList [separator] ++ path

/-- The path of the directory that holds the last segment, without the empty segments and the
single dots that would come last in it. -/
def parent (path : String) : String :=
  let segments := (cut path.toList).dropLast
  let idle (segment : List Char) : Bool := segment.isEmpty || segment == ['.']
  String.ofList ([separator].intercalate (segments.take 1 ++
    ((segments.drop 1).reverse.dropWhile idle).reverse))

/-- A relative path made of names. -/
def relative (names : List String) : String :=
  String.ofList ([separator].intercalate (names.map String.toList))

/-- An absolute path made of names. -/
def absolute (names : List String) : String := String.ofList [separator] ++ relative names

end Path

end Parley

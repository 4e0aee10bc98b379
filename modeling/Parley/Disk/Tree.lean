import Parley.Disk.Basic

/-!
# File systems in memory

A `Volume` is a tree of directories and files with a working directory.  `Volume.locate` follows
the segments of a path through it: an empty segment or a dot stays in a directory, two dots go up,
a name goes down, and only a directory can be walked through.  `Volume.disk` makes a disk of it.

A directory lists its entries in any order; what is added comes last.  Names have at most 255
bytes, paths at most 4095, and neither can hold the character zero.
-/

namespace Parley

/-- A file, or a directory with all that is in it. -/
inductive FileTree where
  | file (content : ByteArray)
  | directory (entries : List (String × FileTree))
deriving Inhabited

namespace FileTree

/-- What a tree is at its root. -/
def kind : FileTree → FileKind
  | file _ => .file
  | directory _ => .directory

/-- The entry of a directory under a name. -/
def child? : FileTree → String → Option FileTree
  | file _, _ => none
  | directory entries, name => entries.lookup name

/-- The subtree that names lead to. -/
def at? : FileTree → List String → Option FileTree
  | t, [] => some t
  | t, name :: rest => (t.child? name).bind (at? · rest)

/-- Put an entry in place of one with the same name, or behind all others. -/
def setEntry (name : String) (new : FileTree) :
    List (String × FileTree) → List (String × FileTree)
  | [] => [(name, new)]
  | (k, t) :: rest => if k = name then (k, new) :: rest else (k, t) :: setEntry name new rest

/-- Put a tree where names lead, through directories that are there or made. -/
def put : FileTree → List String → FileTree → FileTree
  | _, [], new => new
  | file content, _ :: _, _ => file content
  | directory entries, name :: rest, new =>
    directory (setEntry name (put ((entries.lookup name).getD (directory [])) rest new) entries)

mutual

/-- The files of a tree with the names that lead to them, in the order of listing. -/
def files : FileTree → List (List String × ByteArray)
  | file content => [([], content)]
  | directory entries => entryFiles entries

/-- The files of the entries of a directory. -/
def entryFiles : List (String × FileTree) → List (List String × ByteArray)
  | [] => []
  | (name, t) :: rest => t.files.map (fun f => (name :: f.1, f.2)) ++ entryFiles rest

end

end FileTree

/-- A file system in memory. -/
structure Volume where
  root : FileTree
  /-- The names that lead to the working directory. -/
  workingDirectory : List String := []
deriving Inhabited

namespace Volume

/-- A name has at most this many bytes. -/
def nameLimit : Nat := 255

/-- A path has at most this many bytes. -/
def pathLimit : Nat := 4095

/-- Whether a text can be used as a path at all. -/
def isUsable (path : String) : Bool :=
  path ≠ "" && path.utf8ByteSize ≤ pathLimit && '\x00' ∉ path.toList

/-! ### Finding -/

/-- Where a segment leads from a directory. -/
def enter (v : Volume) (place : List String) (segment : String) : Option (List String) :=
  match v.root.at? place with
  | some (.directory _) =>
    match Path.stepOf? segment with
    | some (.name name) => some (place ++ [name])
    | some .parent => some place.dropLast
    | _ => some place
  | _ => none

/-- Where a path begins. -/
def beginning (v : Volume) (path : String) : List String :=
  if Path.isAbsolute path then [] else v.workingDirectory

/-- Where a path leads; nothing need be there, but everything on the way. -/
def locate (v : Volume) (path : String) : Option (List String) :=
  if isUsable path then (Path.segments path).foldlM v.enter (v.beginning path) else none

/-- What is at a path. -/
def find? (v : Volume) (path : String) : Option FileTree := (v.locate path).bind v.root.at?

/-! ### Changing -/

/-- Put a tree at a place. -/
def put (v : Volume) (place : List String) (new : FileTree) : Volume :=
  { v with root := v.root.put place new }

/-- Follow segments from a directory and make the directories that are missing.  When one cannot be
made, those before it stay. -/
def makeDirectories (v : Volume) (place : List String) :
    List String → Option (List String) × Volume
  | [] => (some place, v)
  | segment :: rest =>
    match v.enter place segment with
    | none => (none, v)
    | some next =>
      match v.root.at? next with
      | some _ => makeDirectories v next rest
      | none =>
        if segment.utf8ByteSize ≤ nameLimit then
          makeDirectories (v.put next (.directory [])) next rest
        else (none, v)

/-- Make the directory that is to hold the last segment of a path, unless the path of that directory
cannot be used. -/
def makeParent (v : Volume) (path : String) : Option (List String) × Volume :=
  let parent := Path.parent path
  if parent = "" ∨ isUsable parent then
    v.makeDirectories (v.beginning path) (Path.segments path).dropLast
  else (none, v)

/-- Write a file at the last segment of a path.  The directories that lead to it are made before,
and stay when the file cannot be written. -/
def write (v : Volume) (path : String) (content : ByteArray) : Bool × Volume :=
  match v.makeParent path, (Path.segments path).getLast? with
  | (some place, v), some segment =>
    match v.root.at? place, Path.stepOf? segment with
    | some (.directory entries), some (.name name) =>
      match entries.lookup name with
      | some (.directory _) => (false, v)
      | _ =>
        if isUsable path ∧ name.utf8ByteSize ≤ nameLimit then
          (true, v.put (place ++ [name]) (.file content))
        else (false, v)
    | _, _ => (false, v)
  | (_, v), _ => (false, v)

/-! ### Listing -/

/-- Whether the directory of a file below a path can be read by its own path. -/
def isListed (path : String) (names : List String) : Bool :=
  names.length ≤ 1 || isUsable (Path.join path (Path.relative names.dropLast))

/-- The names that lead from a path to the files below it. -/
def filesBelow (v : Volume) (path : String) : List (List String) :=
  match v.find? path with
  | some (.directory entries) =>
    ((FileTree.entryFiles entries).map Prod.fst).filter (isListed path)
  | _ => []

/-! ### As a disk -/

/-- The disk of a file system in memory. -/
def disk : Disk (StateM Volume) where
  workingDirectory := do return Path.absolute (← get).workingDirectory
  kind? path := do return ((← get).find? path).map FileTree.kind
  filesBelow path := do return (← get).filesBelow path
  read path := do
    return match (← get).find? path with
      | some (.file content) => .ok content
      | some (.directory _) => .error "is a directory"
      | none => .error "no such file or directory"
  write path content := do
    let (written, v) := (← get).write path content
    set v
    return if written then .ok () else .error "cannot write the file"

end Volume

end Parley

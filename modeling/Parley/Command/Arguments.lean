import Parley.Activity

/-!
# The arguments of the command line

The program has two commands, `agent start` and `agent say`, and each takes options with values.
An option is written `--name value` or `--name=value`; only the second form takes a value that
begins with a dash, unless it is a single dash.  Every option may be given once, in any order, and
those without a default have to be given.

Arguments are read from left to right, and the first that asks for help or is wrong decides.
-/

namespace Parley

/-- Where a conversation is found: together these fields name its state file. -/
structure Address where
  stateDirectory : String
  channel : String
  conversation : String
  user : String
deriving DecidableEq, Repr, Inhabited

/-- Begin a conversation. -/
structure StartCommand where
  address : Address
  scriptsDirectory : String
  entryDialog : String
  thread : Option String
deriving DecidableEq, Repr, Inhabited

/-- Go on with a conversation. -/
structure SayCommand where
  address : Address
  text : String
deriving DecidableEq, Repr, Inhabited

/-- What the program is asked to do. -/
inductive Command where
  | start (command : StartCommand)
  | say (command : SayCommand)
deriving DecidableEq, Repr, Inhabited

/-- The message by which the user of an address says something. -/
def Address.message (a : Address) (text : String) : Activity :=
  Activity.message a.channel a.conversation a.user text

namespace Arguments

/-- What arguments come to: a value, a request for help, or a mistake. -/
inductive Reading (α : Type) where
  | value (value : α)
  | help
  | mistake
deriving Repr

/-- The dialog that a conversation starts with unless told otherwise. -/
def defaultEntryDialog : String := "main"

/-! ### Options -/

/-- Options that were given, with their values. -/
abbrev Given := List (String × String)

/-- Split the text behind the two dashes of an option at the first equals sign. -/
def splitOption (text : List Char) : String × Option String :=
  let name := String.ofList (text.takeWhile (· ≠ '='))
  match text.dropWhile (· ≠ '=') with
  | [] => (name, none)
  | _ :: value => (name, some (String.ofList value))

/-- How an argument reads. -/
inductive Shape where
  /-- Two dashes and nothing else. -/
  | separator
  /-- A long option. -/
  | long (name : String) (value : Option String)
  /-- Short options; help is asked for when the first one is `h`. -/
  | short (help : Bool)
  /-- Anything else. -/
  | plain
deriving DecidableEq, Repr

/-- How an argument reads. -/
def shape (argument : String) : Shape :=
  match argument.toList with
  | ['-', '-'] => .separator
  | '-' :: '-' :: text => .long (splitOption text).1 (splitOption text).2
  | '-' :: c :: _ => .short (c == 'h')
  | _ => .plain

/-- Read options with these names, after some that were given; one may still wait for its value. -/
def options (names : List String) (given : Given) :
    Option String → List String → Reading Given
  | none, [] => .value given
  | some _, [] => .mistake
  | some name, text :: rest =>
    if shape text = .plain then options names ((name, text) :: given) none rest else .mistake
  | none, argument :: rest =>
    match shape argument with
    | .separator => if rest.isEmpty then .value given else .mistake
    | .short help => if help then .help else .mistake
    | .plain => .mistake
    | .long "help" none => .help
    | .long name value =>
      if name ∉ names ∨ (given.lookup name).isSome then .mistake
      else match value with
        | some text => options names ((name, text) :: given) none rest
        | none => options names given (some name) rest

/-- The names of the options that make an address. -/
def addressOptions : List String := ["state-dir", "channel", "conversation", "user"]

/-- The address that options give. -/
def address? (given : Given) : Option Address := do
  return {
    stateDirectory := ← given.lookup "state-dir"
    channel := ← given.lookup "channel"
    conversation := ← given.lookup "conversation"
    user := ← given.lookup "user" }

/-- The options of the command `start`. -/
def startOptions : List String := "scripts-dir" :: "entry-dialog" :: "thread" :: addressOptions

/-- The command `start` that options give. -/
def start? (given : Given) : Option Command := do
  return .start {
    address := ← address? given
    scriptsDirectory := ← given.lookup "scripts-dir"
    entryDialog := (given.lookup "entry-dialog").getD defaultEntryDialog
    thread := given.lookup "thread" }

/-- The options of the command `say`. -/
def sayOptions : List String := "text" :: addressOptions

/-- The command `say` that options give. -/
def say? (given : Given) : Option Command := do
  return .say { address := ← address? given, text := ← given.lookup "text" }

/-- Read a command with its options. -/
def command (names : List String) (make? : Given → Option Command) (arguments : List String) :
    Reading Command :=
  match options names [] none arguments with
  | .help => .help
  | .mistake => .mistake
  | .value given =>
    match make? given with
    | some c => .value c
    | none => .mistake

/-! ### Commands -/

/-- The commands inside `agent` that help may be asked about. -/
def agentTopics : List String := ["start", "say", "help"]

/-- Whether help may be asked about a command, given by the words that lead to it. -/
def isTopic : List String → Bool
  | [] | ["agent"] | ["help"] => true
  | ["agent", name] => name ∈ agentTopics
  | _ => false

/-- Read what does not name a command: help, or a mistake. -/
def noCommand (argument : String) : Reading Command :=
  match shape argument with
  | .long "help" none | .short true => .help
  | _ => .mistake

/-- Read the arguments behind `agent`. -/
def agent : List String → Reading Command
  | [] => .mistake
  | "start" :: rest => command startOptions start? rest
  | "say" :: rest => command sayOptions say? rest
  | "help" :: topic => if isTopic ("agent" :: topic) then .help else .mistake
  | argument :: _ => noCommand argument

/-- Read the arguments of the program. -/
def read : List String → Reading Command
  | [] => .mistake
  | "agent" :: rest => agent rest
  | "help" :: topic => if isTopic topic then .help else .mistake
  | argument :: _ => noCommand argument

end Arguments

end Parley

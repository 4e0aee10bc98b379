import Parley.Command.Library
import Parley.Command.Record
import Parley.Command.Report
import Parley.Stack.Turn

/-!
# Running commands

A command takes one turn of a conversation.  First it is prepared: the scripts are loaded, and for
a conversation that goes on its record as well.  Nothing is written until the turn is over, and
then the only file written is the record; so a command that fails leaves everything as it was,
unless it fails in writing.

What comes of a command is an `Answer`, the report or the error and the events of the turn.  There
is none when the turn takes more rounds than it is given.
-/

namespace Parley

/-- What comes of a command. -/
structure Answer where
  outcome : Except DialogError Report
  log : List Event := []

namespace Answer

/-- The lines that are printed. -/
def lines (a : Answer) : List String :=
  match a.outcome with
  | .ok report => report.lines
  | .error e => e.lines

/-- The exit code of the program. -/
def exitCode (a : Answer) : UInt32 :=
  match a.outcome with
  | .ok _ => 0
  | .error _ => 1

end Answer

namespace Command

/-- A turn that is ready to be taken. -/
structure Prepared where
  key : String
  stateDirectory : String
  scriptsDirectory : String
  entryDialog : String
  stack : Stack
  call : Stack.Call

variable {m : Type → Type} [Monad m]

/-- Prepare to begin a conversation. -/
def prepareStart (disk : Disk m) (clock : Nat → UInt32) (c : StartCommand) :
    ExceptT DialogError m Prepared := do
  let library ← Library.load disk c.scriptsDirectory
  let key ← c.address.storageKey
  return {
    key := key
    stateDirectory := c.address.stateDirectory
    scriptsDirectory := library.directory
    entryDialog := c.entryDialog
    stack := Stack.empty library.dialogs clock
    call := .start c.entryDialog { thread := c.thread, channel := some c.address.channel } }

/-- Prepare to go on with a conversation. -/
def prepareSay (disk : Disk m) (clock : Nat → UInt32) (c : SayCommand) :
    ExceptT DialogError m Prepared := do
  let key ← c.address.storageKey
  let record ← StateFile.load disk (← StateFile.path c.address.stateDirectory key)
  let library ← Library.load disk record.scriptsDirectory
  let stack ← Stack.ofSnapshot library.dialogs clock record.stack
  return {
    key := key
    stateDirectory := c.address.stateDirectory
    scriptsDirectory := record.scriptsDirectory
    entryDialog := record.entryDialog
    stack := stack
    call := .continueTurn (c.address.message c.text) }

/-- Prepare a command. -/
def prepare (disk : Disk m) (clock : Nat → UInt32) : Command → ExceptT DialogError m Prepared
  | .start c => prepareStart disk clock c
  | .say c => prepareSay disk clock c

namespace Prepared

/-- What is stored once the turn is over. -/
def record (p : Prepared) (st : Stack) : Record :=
  { scriptsDirectory := p.scriptsDirectory, entryDialog := p.entryDialog, stack := st.snapshot }

/-- What the turn has brought. -/
def report (p : Prepared) (status : TurnStatus) (st : Stack) : Report :=
  { status := status
    messages := st.outbox.toList
    completed := st.results.toList.map (·.result.values)
    key := p.key }

/-- Store the conversation after a turn, and report. -/
def finish (disk : Disk m) (p : Prepared) (status : TurnStatus) (st : Stack) :
    ExceptT DialogError m Report := do
  StateFile.save disk (← StateFile.path p.stateDirectory p.key) (p.record st)
  return p.report status st

/-- Take the turn. -/
def take (disk : Disk m) (rounds : Nat) (p : Prepared) : m (Option Answer) :=
  match p.stack.call rounds p.call with
  | none => pure none
  | some (.error e, st) => pure (some ⟨.error e, st.log.toList⟩)
  | some (.ok status, st) => do
    let outcome ← (p.finish disk (status.getD st.status) st).run
    return some ⟨outcome, st.log.toList⟩

end Prepared

/-- Run a command, in a number of rounds, with numbers for random choice to start from. -/
def run (disk : Disk m) (rounds : Nat) (clock : Nat → UInt32) (c : Command) :
    m (Option Answer) := do
  match ← (prepare disk clock c).run with
  | .error e => return some ⟨.error e, []⟩
  | .ok p => p.take disk rounds

end Command

end Parley

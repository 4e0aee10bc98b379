import Parley.Dialog.Run
import Parley.Snapshot

/-!
# The stack of dialogs

A `Stack` holds the sessions of a conversation, the active one on top, together with what they have
sent and which dialogs have ended.  It also keeps track of what is going on inside a turn: which
sessions are just running, and which child results wait until the session they are for has stopped
running.
-/

namespace Parley

/-- Dialogs by their ids. -/
abbrev DialogSet := Keyed Dialog

namespace DialogSet

/-- A set with one more dialog, in place of one with the same id. -/
def add (set : DialogSet) (d : Dialog) : DialogSet := Keyed.insert set d.id d

/-- The dialog of an id. -/
def find (set : DialogSet) (id : String) : Except DialogError Dialog :=
  match Keyed.get? set id with
  | some d => .ok d
  | none => .error (.dialogNotRegistered id)

theorem find_eq_ok_iff {set : DialogSet} {id : String} {d : Dialog} :
    set.find id = .ok d ↔ Keyed.get? set id = some d := by
  unfold find
  cases Keyed.get? set id <;> simp

end DialogSet

/-- A session on a stack.  Its number tells it from all other sessions the stack ever had. -/
structure Frame where
  id : Nat
  dialog : String
  session : Session
deriving Repr, Inhabited

/-- A dialog that has ended, with its result. -/
structure Completed where
  dialog : String
  result : DialogResult
deriving Repr, Inhabited

/-- A stack of dialogs. -/
structure Stack where
  dialogs : DialogSet
  /-- The sessions, the active one first. -/
  frames : List Frame := []
  /-- The number of the next session. -/
  nextFrame : Nat := 1
  /-- The numbers of the sessions that are running, the innermost first. -/
  executing : List Nat := []
  /-- What sessions are to be resumed with once they have stopped running, one entry for each. -/
  pending : List (Nat × Option TurnInput) := []
  outbox : Array OutgoingMessage := #[]
  results : Array Completed := #[]
  log : Array Event := #[]
  /-- The numbers that random choice starts from, by how many were given before. -/
  clock : Nat → UInt32
  /-- How many of them were given. -/
  ticks : Nat := 0

namespace Stack

/-- An empty stack. -/
def empty (dialogs : DialogSet) (clock : Nat → UInt32) : Stack :=
  { dialogs := dialogs, clock := clock }

/-! ### Views -/

/-- The session on top. -/
def top? (st : Stack) : Option Frame := st.frames.head?

/-- The dialog on top. -/
def active? (st : Stack) : Option String := st.top?.map Frame.dialog

/-- How many sessions there are. -/
def depth (st : Stack) : Nat := st.frames.length

/-- The session of a number. -/
def frame? (st : Stack) (id : Nat) : Option Frame := st.frames.find? (·.id = id)

/-- The topmost session of a dialog. -/
def sessionOf? (st : Stack) (dialog : String) : Option Session :=
  (st.frames.find? (·.dialog = dialog)).map Frame.session

/-- How things stand after a turn. -/
def status (st : Stack) : TurnStatus := if st.frames.isEmpty then .complete else .waiting

/-! ### Changes -/

/-- Note an event. -/
def note (st : Stack) (event : Event) : Stack := { st with log := st.log.push event }

/-- Put a fresh session on top. -/
def push (st : Stack) (dialog : String) (options : LaunchOptions) : Stack :=
  { st with
    frames := ⟨st.nextFrame, dialog, Session.launch options⟩ :: st.frames
    nextFrame := st.nextFrame + 1 }

/-- Write back the state of a session, if it is still there. -/
def store (st : Stack) (id : Nat) (session : Session) : Stack :=
  { st with
    frames := st.frames.map fun f => if f.id = id then { f with session := session } else f }

/-- Let a session be resumed later. -/
def defer (st : Stack) (id : Nat) (input : Option TurnInput) : Stack :=
  { st with pending := (id, input) :: st.pending.filter (·.1 ≠ id) }

/-- Forget what a session is to be resumed with. -/
def undefer (st : Stack) (id : Nat) : Stack :=
  { st with pending := st.pending.filter (·.1 ≠ id) }

/-- A session begins to run. -/
def enter (st : Stack) (id : Nat) : Stack := { st with executing := id :: st.executing }

/-- The innermost running session stops running. -/
def leave (st : Stack) : Stack := { st with executing := st.executing.tail }

/-- Take the messages out. -/
def drain (st : Stack) : List OutgoingMessage × Stack :=
  (st.outbox.toList, { st with outbox := #[] })

/-! ### Snapshots -/

/-- What is stored of a stack. -/
def snapshot (st : Stack) : Snapshot :=
  ⟨st.frames.reverse.map fun f => ⟨f.dialog, f.session⟩⟩

/-- Put stored sessions on top, the lowest first. -/
def restoreFrames (st : Stack) : List StoredFrame → Except DialogError Stack
  | [] => .ok st
  | f :: rest =>
    if Keyed.contains st.dialogs f.dialog then
      restoreFrames
        { st with
          frames := ⟨st.nextFrame, f.dialog, f.session⟩ :: st.frames
          nextFrame := st.nextFrame + 1 } rest
    else .error (.snapshotNotRegistered f.dialog)

/-- A stack from what was stored of it. -/
def ofSnapshot (dialogs : DialogSet) (clock : Nat → UInt32) (s : Snapshot) :
    Except DialogError Stack :=
  (empty dialogs clock).restoreFrames s.frames

end Stack

end Parley

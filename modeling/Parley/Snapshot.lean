import Parley.Session

/-!
# Snapshots

A `Snapshot` is what is stored of a stack of dialogs between turns: the sessions on it, the bottom
one first.
-/

namespace Parley

/-- A session on a stored stack, with the id of its dialog. -/
structure StoredFrame where
  dialog : String
  session : Session
deriving Repr, Inhabited

/-- A stored stack, bottom first. -/
structure Snapshot where
  frames : List StoredFrame
deriving Repr, Inhabited

namespace StoredFrame

def toJson (f : StoredFrame) : Json :=
  .object [("dialogId", .string f.dialog), ("state", f.session.toJson)]

def decoder : Decoder StoredFrame := .record ["dialogId", "state"] fun f => do
  return {
    dialog := ← f.required "dialogId" .string
    session := ← f.required "state" Session.decoder }

end StoredFrame

namespace Snapshot

def toJson (s : Snapshot) : Json := .object [("frames", .array (s.frames.map StoredFrame.toJson))]

def decoder : Decoder Snapshot := .record ["frames"] fun f => do
  return { frames := ← f.required "frames" (.list StoredFrame.decoder) }

end Snapshot

end Parley

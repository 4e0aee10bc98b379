import Parley.DialogError

/-!
# Messages of a script

What a line of a script says.  A `Message` is a pattern for an outgoing message: its parts are
written out, chosen from variants or computed from the variables when it is sent.
-/

namespace Parley

/-- The text of a message. -/
inductive Text where
  | literal (text : String)
  /-- One of several texts, chosen at random. -/
  | variants (texts : List String)
  | computed (compute : Vars → Except DialogError String)

/-- Another part of a message. -/
inductive Content where
  | literal (value : Json)
  | computed (compute : Vars → Except DialogError Json)

namespace Text

/-- Whether a text counts as content; an empty text does not. -/
def isPresent : Text → Bool
  | literal text => !text.isEmpty
  | variants _ | computed _ => true

end Text

namespace Content

/-- The value of a part. -/
def resolve : Content → Vars → Except DialogError Json
  | literal value, _ => .ok value
  | computed compute, vars => compute vars

/-- Whether a part is computed. -/
def isComputed : Content → Bool
  | literal _ => false
  | computed _ => true

end Content

/-- What a line says. -/
structure Message where
  text : Option Text := none
  quickReplies : Option Content := none
  attachments : Option Content := none
  attachment : Option Content := none
  attachmentLayout : Option String := none
  blocks : Option Content := none
  channelData : Vars := []
  type : Option String := none
  value : Option Json := none

namespace Message

/-- A message with one text. -/
def ofText (text : String) : Message := { text := some (.variants [text]) }

/-- Whether a message says anything.  Quick replies alone do not. -/
def hasContent (m : Message) : Bool :=
  m.type.isSome || m.text.any Text.isPresent || m.attachments.isSome || m.attachment.isSome ||
    m.blocks.isSome || !m.channelData.isEmpty

end Message

end Parley

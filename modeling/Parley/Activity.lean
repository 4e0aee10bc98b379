import Parley.Session

/-!
# Activities and turn input

An `Activity` is what a channel delivers: a message of a user, or some other event.  What reaches
a session in a turn is a `TurnInput`, a message or the result of a dialog that ended above it.
`TurnInput.response` is the answer in it, if there is one.
-/

namespace Parley

/-- The type of an activity or message that carries text for people. -/
def messageType : String := "message"

/-- A party of a conversation. -/
structure Account where
  id : String
  name : Option String := none
deriving DecidableEq, Repr, Inhabited

/-- Something that a channel delivers. -/
structure Activity where
  type : String
  channelId : String
  text : Option String := none
  value : Option Json := none
  sender : Account
  conversation : Vars := []
deriving Repr, Inhabited

namespace Activity

/-- A message with a text, in a conversation known by its id. -/
def message (channelId conversationId senderId text : String) : Activity where
  type := messageType
  channelId := channelId
  text := some text
  sender := ⟨senderId, none⟩
  conversation := [("id", .string conversationId)]

/-- Only messages advance a dialog. -/
def isMessage (a : Activity) : Bool := a.type == messageType

end Activity

/-- What reaches a session in a turn. -/
inductive TurnInput where
  | message (activity : Activity)
  | result (result : DialogResult)
deriving Repr, Inhabited

namespace TurnInput

/-- The answer before empty ones are set aside: the text of a message, or its value if it has no
text, or the values of a result as an object. -/
def content? : TurnInput → Option Json
  | message a =>
    match a.text with
    | some text => if text.isEmpty then a.value else some (.string text)
    | none => a.value
  | result r => some (.object r.values)

/-- The answer, unless it is empty. -/
def response (i : TurnInput) : Option Json := i.content?.filter Json.isTruthy

/-- The activity of a message. -/
def activity? : TurnInput → Option Activity
  | message a => some a
  | result _ => none

end TurnInput

/-! ### JSON forms -/

namespace Account

def toJson (a : Account) : Json :=
  .object (("id", .string a.id) :: Json.memberIf "name" (a.name.map .string))

def decoder : Decoder Account := .record ["id", "name"] fun f => do
  return { id := ← f.required "id" .string, name := ← f.optional "name" .string }

end Account

namespace Activity

/-- The form of an activity, in which an absent text or value is null. -/
def toJson (a : Activity) : Json :=
  .object [("type", .string a.type), ("channelId", .string a.channelId),
    ("text", .orNull (a.text.map .string)), ("value", .orNull a.value),
    ("from", a.sender.toJson), ("conversation", .object a.conversation)]

def decoder : Decoder Activity :=
  .record ["type", "channelId", "text", "value", "from", "conversation"] fun f => do
    return {
      type := ← f.required "type" .string
      channelId := ← f.required "channelId" .string
      text := ← f.optional "text" .string
      value := ← f.optional "value" .json
      sender := ← f.required "from" Account.decoder
      conversation := ← f.orElse "conversation" .vars [] }

end Activity

end Parley

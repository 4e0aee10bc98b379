import Parley.Activity

/-!
# Outgoing messages

An `OutgoingMessage` is what a dialog hands to its channel: text, attachments, suggested replies
and data for the channel alone.  What is empty or absent is left out of its JSON form, but an
empty list of attachments is not absent.
-/

namespace Parley

/-- A reply that is offered as a button. -/
structure CardAction where
  type : String
  title : Json
  text : Json
  displayText : Json
  value : Json
deriving Repr, Inhabited

/-- A message for the channel. -/
structure OutgoingMessage where
  type : String
  text : String
  value : Option Json := none
  attachmentLayout : Option String := none
  attachments : Option (List Json) := none
  suggestedActions : List CardAction := []
  channelData : Vars := []
deriving Repr, Inhabited

namespace OutgoingMessage

/-- A message that holds a text and nothing else. -/
def ofText (text : String) : OutgoingMessage := { type := messageType, text := text }

end OutgoingMessage

/-! ### JSON forms -/

namespace CardAction

def toJson (a : CardAction) : Json :=
  .object [("type", .string a.type), ("title", a.title), ("text", a.text),
    ("displayText", a.displayText), ("value", a.value)]

def decoder : Decoder CardAction :=
  .record ["type", "title", "text", "displayText", "value"] fun f => do
    return {
      type := ← f.required "type" .string
      title := ← f.required "title" .json
      text := ← f.required "text" .json
      displayText := ← f.required "displayText" .json
      value := ← f.required "value" .json }

end CardAction

namespace OutgoingMessage

def toJson (m : OutgoingMessage) : Json :=
  .object ([("type", .string m.type), ("text", .string m.text)] ++
    Json.memberIf "value" m.value ++
    Json.memberIf "attachmentLayout" (m.attachmentLayout.map .string) ++
    Json.memberIf "attachments" (m.attachments.map .array) ++
    (if m.suggestedActions.isEmpty then []
      else [("suggestedActions", .array (m.suggestedActions.map CardAction.toJson))]) ++
    (if m.channelData.isEmpty then [] else [("channelData", .object m.channelData)]))

def decoder : Decoder OutgoingMessage :=
  .record ["type", "text", "value", "attachmentLayout", "attachments", "suggestedActions",
      "channelData"] fun f => do
    return {
      type := ← f.required "type" .string
      text := ← f.required "text" .string
      value := ← f.optional "value" .json
      attachmentLayout := ← f.optional "attachmentLayout" .string
      attachments := ← f.optional "attachments" (.list .json)
      suggestedActions := ← f.orElse "suggestedActions" (.list CardAction.decoder) []
      channelData := ← f.orElse "channelData" .vars [] }

end OutgoingMessage

end Parley

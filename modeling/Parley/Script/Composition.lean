import Parley.Outgoing
import Parley.Random
import Parley.Script.Message
import Parley.Template

/-!
# From messages to outgoing messages

`Message.compose` makes the outgoing message of a line: it chooses a text, computes what has to be
computed, gathers what only the channel understands, and fills in all templates.  Data that the line
gives for the channel itself comes last and wins.

A message with many attachments side by side is sent in parts, by `OutgoingMessage.parts`.
-/

namespace Parley

/-! ### Composing -/

/-- Composing takes its random choices from the state of the session.  Choices stay made when
something fails later. -/
abbrev ComposeM := ExceptT DialogError (StateM UInt32)

namespace Message

/-- The type of a message that stands for a pause. -/
def delayType : String := "delay"

/-- How long a pause lasts unless the message says otherwise, in milliseconds. -/
def defaultDelay : Nat := 1000

/-- The text of a message, with its templates not yet filled in. -/
def chooseText (m : Message) (vars : Vars) : ComposeM String :=
  match m.text with
  | none => return ""
  | some (.literal text) => return text
  | some (.variants []) => return ""
  | some (.variants texts) => do
    let (index, state) := Random.pickIndex (← get) texts.length
    set state
    return texts[index]?.getD ""
  | some (.computed compute) => ofExcept (compute vars)

/-- The buttons that stand for quick replies: a list whose items have a title and a payload. -/
def suggestedActions (replies : Json) : List CardAction :=
  (replies.array?.getD []).map fun reply =>
    let title := Json.orNull (reply.member? "title")
    let payload := Json.orNull (reply.member? "payload")
    { type := "postBack", title := title, text := payload, displayText := title, value := payload }

/-- A value as a list of attachments. -/
def attachmentList : Json → List Json
  | .array items => items
  | .null => []
  | v => [v]

/-- A part of a message, resolved if it is there. -/
def resolve (part : Option Content) (vars : Vars) : ComposeM (Option Json) :=
  part.mapM fun content => ofExcept (content.resolve vars)

/-- Data for the channel with one more entry, if there is one. -/
def withEntry (data : Vars) (key : String) (v : Option Json) : Vars :=
  match v with
  | some v => Keyed.insert data key v
  | none => data

/-- The value of a message with a type of its own. -/
def typedValue (m : Message) : Option Json :=
  if m.type = some delayType then
    match m.value with
    | some (.number n) => some (.number n)
    | _ => some (.ofNat defaultDelay)
  else none

/-- The outgoing message of a line before templates are filled in. -/
def assemble (m : Message) (vars : Vars) : ComposeM OutgoingMessage := do
  let text ← m.chooseText vars
  let replies ← resolve m.quickReplies vars
  let attachment ← resolve m.attachment vars
  let attachments ← resolve m.attachments vars
  let blocks ← resolve m.blocks vars
  let data := withEntry [] "quick_replies" replies
  let data := withEntry data "attachment" attachment
  let data :=
    if m.attachments.any Content.isComputed then withEntry data "attachments" attachments else data
  let data := withEntry data "blocks" blocks
  return {
    type := m.type.getD messageType
    text := text
    value := m.typedValue
    attachmentLayout := m.attachmentLayout
    attachments := attachments.map attachmentList
    suggestedActions := (replies.map suggestedActions).getD []
    channelData := Keyed.insertAll data m.channelData }

end Message

namespace CardAction

/-- Fill in the templates of a button. -/
def fill (a : CardAction) (vars : Vars) : CardAction where
  type := a.type
  title := Template.renderValue vars a.title
  text := Template.renderValue vars a.text
  displayText := Template.renderValue vars a.displayText
  value := Template.renderValue vars a.value

end CardAction

namespace OutgoingMessage

/-- Fill in the templates of a message. -/
def fill (m : OutgoingMessage) (vars : Vars) : OutgoingMessage :=
  { m with
    text := Template.render m.text vars
    attachments := m.attachments.map (Template.renderItems vars)
    suggestedActions := m.suggestedActions.map (·.fill vars)
    channelData := Template.renderMembers vars m.channelData }

end OutgoingMessage

/-- The outgoing message of a line. -/
def Message.compose (m : Message) (vars : Vars) : ComposeM OutgoingMessage := do
  return (← m.assemble vars).fill vars

/-! ### Carousels -/

namespace OutgoingMessage

/-- The layout in which attachments stand side by side. -/
def carouselLayout : String := "carousel"

/-- A carousel is split from this many attachments on. -/
def splitThreshold : Nat := 4

/-- No part of a carousel has more attachments. -/
def largestGroup : Nat := 10

/-- The least number, from a given one on, whose square reaches a count. -/
def rootFrom (count root : Nat) : Nat :=
  if root * root < count then rootFrom count (root + 1) else root
termination_by count - root
decreasing_by
  have : root ≤ root * root := Nat.le_mul_self root
  omega

/-- How many attachments go into a part: the square root of their number, rounded up, but not more
than the largest group. -/
def groupSize (count : Nat) : Nat := min (rootFrom count 1) largestGroup

/-- A list in groups of a size; the last one may be smaller. -/
def chunks {α : Type} (size : Nat) (items : List α) : List (List α) :=
  if h : size = 0 ∨ items = [] then []
  else
    have : (items.drop size).length < items.length := by
      have : 0 < items.length := List.length_pos_iff.2 fun e => h (.inr e)
      simp only [List.length_drop]
      omega
    items.take size :: chunks size (items.drop size)
termination_by items.length

/-- The parts in which a message is sent. -/
def parts (m : OutgoingMessage) : List OutgoingMessage :=
  match m.attachments with
  | some items =>
    if m.attachmentLayout = some carouselLayout ∧ splitThreshold ≤ items.length then
      (chunks (groupSize items.length) items).map fun group => { m with attachments := some group }
    else [m]
  | none => [m]

end OutgoingMessage

end Parley

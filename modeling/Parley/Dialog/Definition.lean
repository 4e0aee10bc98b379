import Parley.Dialog.Builder

/-!
# Dialog definitions

Dialogs are written in JSON: an id and threads of line definitions.  `DialogDefinition.read` reads
such a text, and `DialogDefinition.toDialog` makes it into a dialog.  Every line definition stands
for one or two lines of its own thread, whatever stands before it, and the first one that stands for
none is reported with its place.
-/

namespace Parley

/-- A text in a definition: one, or several to choose from. -/
inductive TextDefinition where
  | one (text : String)
  | many (texts : List String)
deriving DecidableEq, Repr

/-- What is done with an answer, in a definition.  The handlers are kept as they are written. -/
structure CollectDefinition where
  key : Option String := none
  multiple : Bool := false
  options : Option Json := none
deriving Repr

/-- A handler in a definition. -/
structure HandlerDefinition where
  pattern : Option String := none
  matchType : Option String := none
  isDefault : Bool := false
  action : Option String := none
  execute : Option Execute := none
deriving Repr

/-- A line in a definition. -/
structure LineDefinition where
  text : Option TextDefinition := none
  quickReplies : Option Json := none
  attachments : Option Json := none
  attachment : Option Json := none
  attachmentLayout : Option String := none
  blocks : Option Json := none
  channelData : Option Vars := none
  type : Option String := none
  value : Option Json := none
  action : Option String := none
  execute : Option Execute := none
  collect : Option CollectDefinition := none
deriving Repr

/-- A dialog as it is written. -/
structure DialogDefinition where
  id : String
  threads : Keyed (List LineDefinition)
deriving Repr

/-! ### Reading -/

namespace TextDefinition

/-- The text that a value writes: a string, or a list of strings. -/
def ofJson? : Json → Option TextDefinition
  | .string text => some (one text)
  | .array items => (items.mapM Json.string?).map many
  | _ => none

def decoder : Decoder TextDefinition := fun depth d => (Decoder.json depth d).bind ofJson?

end TextDefinition

namespace Execute

def decoder : Decoder Execute := .record ["script", "thread"] fun f => do
  return { script := ← f.required "script" .string, thread := ← f.optional "thread" .string }

end Execute

namespace CollectDefinition

def decoder : Decoder CollectDefinition := .record ["key", "multiple", "options"] fun f => do
  return {
    key := ← f.optional "key" .string
    multiple := ← f.orElse "multiple" .bool false
    options := ← f.optional "options" .json }

end CollectDefinition

namespace HandlerDefinition

def decoder : Decoder HandlerDefinition :=
  .record ["pattern", "type", "default", "action", "execute"] fun f => do
    return {
      pattern := ← f.optional "pattern" .string
      matchType := ← f.optional "type" .string
      isDefault := ← f.orElse "default" .bool false
      action := ← f.optional "action" .string
      execute := ← f.optional "execute" Execute.decoder }

end HandlerDefinition

namespace LineDefinition

def decoder : Decoder LineDefinition :=
  .record ["text", "quick_replies", "attachments", "attachment", "attachmentLayout", "blocks",
      "channelData", "type", "value", "action", "execute", "collect"] fun f => do
    return {
      text := ← f.optional "text" TextDefinition.decoder
      quickReplies := ← f.optional "quick_replies" .json
      attachments := ← f.optional "attachments" .json
      attachment := ← f.optional "attachment" .json
      attachmentLayout := ← f.optional "attachmentLayout" .string
      blocks := ← f.optional "blocks" .json
      channelData := ← f.optional "channelData" .vars
      type := ← f.optional "type" .string
      value := ← f.optional "value" .json
      action := ← f.optional "action" .string
      execute := ← f.optional "execute" Execute.decoder
      collect := ← f.optional "collect" CollectDefinition.decoder }

end LineDefinition

namespace DialogDefinition

def decoder : Decoder DialogDefinition := .record ["id", "threads"] fun f => do
  return {
    id := ← f.required "id" .string
    threads := ← f.required "threads" (.table (.list LineDefinition.decoder)) }

/-- Read a definition. -/
def read (source : String) : Except DialogError DialogDefinition :=
  match decoder.text? source with
  | some d => .ok d
  | none => .error (.definitionInvalid "the text does not define a dialog")

end DialogDefinition

/-! ### Lines -/

namespace HandlerDefinition

/-- The handler that a definition stands for.  A default needs no pattern, and one that it has is
not read. -/
def toHandler (h : HandlerDefinition) : Except DialogError Handler := do
  let handler ←
    if h.isDefault then pure Handler.fallback
    else
      match h.pattern with
      | none => throw .patternMissing
      | some pattern =>
        let matchType ← match h.matchType with
          | some name => MatchType.ofName name
          | none => pure .string
        Handler.matching pattern matchType
  match h.action with
  | none => return handler
  | some keyword => return handler.withAction (← Action.ofKeyword keyword h.execute)

/-- The handler that a value writes. -/
def handlerOf (v : Json) : Except DialogError Handler :=
  match decoder.json? v with
  | some h => h.toHandler
  | none => .error (.handlerInvalid "the value does not define a handler")

end HandlerDefinition

namespace CollectDefinition

/-- The handlers of a line. -/
def handlers (c : CollectDefinition) : Except DialogError (List Handler) :=
  match c.options with
  | none | some .null => .ok []
  | some (.array items) => items.mapM HandlerDefinition.handlerOf
  | some _ => .error .handlersUnsupported

end CollectDefinition

namespace LineDefinition

/-- The message of a line. -/
def message (l : LineDefinition) : Message where
  text := l.text.map fun
    | .one text => .literal text
    | .many texts => .variants texts
  quickReplies := l.quickReplies.map .literal
  attachments := l.attachments.map .literal
  attachment := l.attachment.map .literal
  attachmentLayout := l.attachmentLayout
  blocks := l.blocks.map .literal
  channelData := l.channelData.getD []
  type := l.type
  value := l.value

/-- The lines that a definition stands for.  With something to collect it is a question, or a child
dialog if its action begins one; without, it is a message, or a mere action if it says nothing. -/
def lines (l : LineDefinition) : Except DialogError (List Line) := do
  let action ← l.action.mapM (Action.ofKeyword · l.execute)
  match l.collect with
  | some collect =>
    let handlers ← collect.handlers
    match action with
    | some (.beginDialog execute) =>
      let key : CollectKey := { key := collect.key.getD execute.script }
      return [.childDialog execute (.of (some key) (.options handlers)), .next]
    | _ =>
      let key := collect.key.map fun key => { key := key, multiple := collect.multiple }
      return [.question l.message (.of key (.options handlers)), .next]
  | none =>
    match action with
    | some action =>
      if l.message.hasContent then return [.message l.message (some action)]
      else return [.action action]
    | none => return [.message l.message none]

end LineDefinition

/-! ### Dialogs -/

namespace DialogDefinition

/-- The lines of a thread, from a line definition of a given number on. -/
def linesFrom (id thread : String) (index : Nat) : List LineDefinition →
    Except DialogError (List Line)
  | [] => .ok []
  | l :: rest => do
    let first ← l.lines.mapError (.onLine id thread index)
    let more ← linesFrom id thread (index + 1) rest
    return first ++ more

/-- The threads of a dialog.  A thread without lines does not come into being. -/
def threadsOf (id : String) : Keyed (List LineDefinition) → Except DialogError (Keyed (List Line))
  | [] => .ok []
  | (thread, definitions) :: rest => do
    let lines ← linesFrom id thread 0 definitions
    let more ← threadsOf id rest
    return if definitions.isEmpty then more else (thread, lines) :: more

/-- The dialog that a definition stands for. -/
def toDialog (d : DialogDefinition) (options : DialogOptions) : Except DialogError Dialog := do
  let threads ← threadsOf d.id d.threads
  return { id := d.id, script := ⟨threads⟩, options := options }

end DialogDefinition

/-- Read a dialog. -/
def Dialog.load (source : String) (options : DialogOptions) : Except DialogError Dialog := do
  (← DialogDefinition.read source).toDialog options

end Parley

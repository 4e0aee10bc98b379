import Parley.Convo
import Parley.Pattern.Reader
import Parley.Script.Action

/-!
# Handlers

A question is answered through handlers.  A handler has a pattern that an answer may match, or is a
default for answers that match none; it carries an action, a callback or nothing.  `Collect` is what
a line does with an answer: the key it is kept under and the handlers it is offered to, of which
`Collect.select` picks one.
-/

namespace Parley

/-- How a handler says that it matches.  Both ways read the pattern alike. -/
inductive MatchType where
  | string
  | regex
deriving DecidableEq, Repr, Inhabited

namespace MatchType

/-- A type of match by its name. -/
def ofName (name : String) : Except DialogError MatchType :=
  match name with
  | "string" => .ok string
  | "regex" => .ok regex
  | name => .error (.matchTypeUnsupported name)

/-- The name of a type of match. -/
def name : MatchType → String
  | string => "string"
  | regex => "regex"

end MatchType

/-- What is tried on an answer. -/
structure Handler where
  pattern : Option Pattern := none
  matchType : MatchType := .string
  isDefault : Bool := false
  action : Option Action := none
  callback : Option HandlerCallback := none

namespace Handler

/-- A handler for answers in which a pattern occurs, in any case of its letters. -/
def matching (source : String) (matchType : MatchType) : Except DialogError Handler :=
  match Pattern.compile? source with
  | some pattern => .ok { pattern := some pattern, matchType := matchType }
  | none => .error (.patternInvalid source "the pattern is not well formed")

/-- A handler for answers that match no pattern. -/
def fallback : Handler := { isDefault := true }

/-- The same handler with an action. -/
def withAction (h : Handler) (action : Action) : Handler := { h with action := some action }

/-- The same handler with a callback. -/
def withCallback (h : Handler) (callback : HandlerCallback) : Handler :=
  { h with callback := some callback }

/-- Whether an answer matches the pattern of a handler.  A default matches nothing. -/
def accepts (h : Handler) (answer : String) : Bool :=
  !h.isDefault && h.pattern.any (·.occursIn answer)

end Handler

/-- Handlers as they are given: a list, or one callback for every answer. -/
inductive Handlers where
  | callback (run : HandlerCallback)
  | options (handlers : List Handler)

namespace Handlers

/-- Handlers as a list. -/
def toList : Handlers → List Handler
  | callback run => [Handler.fallback.withCallback run]
  | options handlers => handlers

end Handlers

/-- The variable that an answer is kept in, and whether further answers are added to it. -/
structure CollectKey where
  key : String
  multiple : Bool := false
deriving DecidableEq, Repr

/-- What a line does with the answer to it. -/
structure Collect where
  key : Option String := none
  multiple : Bool := false
  options : List Handler := []

namespace Collect

/-- What is done with an answer: it is kept under a key, if there is one, and offered to
handlers. -/
def of (key : Option CollectKey) (handlers : Handlers) : Collect where
  key := key.map CollectKey.key
  multiple := key.any CollectKey.multiple
  options := handlers.toList

/-- The first handler with a pattern that occurs in an answer of text, else the first default. -/
def select (c : Collect) (answer : Json) : Option Handler :=
  let matched := answer.string?.bind fun text => c.options.find? (·.accepts text)
  matched.or (c.options.find? Handler.isDefault)

end Collect

end Parley

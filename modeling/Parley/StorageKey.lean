import Parley.Activity
import Parley.DialogError
import Parley.Json.Document

/-!
# Storage keys

The state of a conversation is stored under a key made from the channel, the address of the
conversation, the sender and a namespace.  All fields of the address take part, in the order of
their names, so that conversations which differ in any of them are stored apart; only the field
`properties` and fields without text do not.
-/

namespace Parley

namespace StorageKey

/-- The field of an address that never takes part. -/
def excludedField : String := "properties"

/-- The part of a key that a field of the address gives. -/
def part? (field : String × Json) : Option String :=
  if field.1 = excludedField then none
  else match field.2 with
    | .null => none
    | v => if v.toText.isEmpty then none else some v.toText

/-- The parts of a key that an address gives, in the order of its fields. -/
def addressParts (conversation : Vars) : List String := conversation.filterMap part?

/-- Whether an address has an id that says something. -/
def hasId (conversation : Vars) : Bool := (Keyed.get? conversation "id").any Json.isTruthy

end StorageKey

/-- The key under which the conversation of an activity is stored. -/
def Activity.storageKey (a : Activity) (space : String) : Except DialogError String :=
  if !StorageKey.hasId a.conversation then .error .conversationMissing
  else if a.channelId.isEmpty then .error .channelMissing
  else
    let parts := StorageKey.addressParts a.conversation ++ [a.sender.id]
    .ok (a.channelId ++ "/conversations/" ++ "-".intercalate parts ++ "/" ++ space)

end Parley

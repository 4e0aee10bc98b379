import Mathlib.Logic.Relation
import Parley.Proofs.Store.Key

/-!
# Whose conversation it is

Of an activity the channel, the id of the sender and the address of the conversation make up the
storage key, and of the address only what says something: fields can come and go that are named
`properties`, are null or have no text, as long as the id of the conversation is not among them
(`StorageKey.Pads`).

* `StorageKey.Alike` : two addresses are alike if one is made from the other by adding and removing
  such fields.
* `Activity.storageKey_eq_iff_sender` : for two activities of a channel with alike addresses there
  is a key for both or for none, and then the same error; the keys are the same just when the
  senders are.  Nothing else in the activities matters, and neither do the texts of the ids.
-/

namespace Parley

namespace StorageKey

/-! ### Addresses that are alike -/

/-- A field says nothing: it is excluded, or null, or has no text. -/
def Silent (name : String) (value : Json) : Prop :=
  name = excludedField ∨ value = .null ∨ value.toText = ""

/-- An address is another one with one more field that says nothing. -/
inductive Pads : Vars → Vars → Prop where
  | field {c : Vars} {name : String} {value : Json} (hid : name ≠ "id")
      (hnew : Keyed.get? c name = none) (hsilent : Silent name value) :
      Pads c (Keyed.insert c name value)

/-- Two addresses differ in fields only that say nothing. -/
abbrev Alike : Vars → Vars → Prop := Relation.EqvGen Pads

theorem part?_eq_none_of_silent {name : String} {value : Json} (h : Silent name value) :
    part? (name, value) = none := by
  rw [part?_eq, if_neg]
  rintro ⟨hname, htext⟩
  rcases h with h | rfl | h
  · exact hname h
  · exact htext (by simp [Json.toText])
  · exact htext h

theorem addressParts_insert {c : Vars} {name : String} {value : Json}
    (hnew : Keyed.get? c name = none) (hpart : part? (name, value) = none) :
    addressParts (Keyed.insert c name value) = addressParts c := by
  unfold addressParts
  induction c with
  | nil => simp [Keyed.insert, hpart]
  | cons field rest ih =>
    obtain ⟨k, v⟩ := field
    rw [Keyed.get?_cons] at hnew
    by_cases hk : k = name
    · simp [hk] at hnew
    · rw [if_neg hk] at hnew
      by_cases hlt : name < k
      · simp [Keyed.insert, hlt, List.filterMap_cons, hpart]
      · simp only [Keyed.insert, hlt, hk, if_false, List.filterMap_cons, ih hnew]

theorem Pads.addressParts_eq {c c' : Vars} (h : Pads c c') : addressParts c' = addressParts c := by
  cases h with
  | field _ hnew hsilent => exact addressParts_insert hnew (part?_eq_none_of_silent hsilent)

theorem Pads.hasId_eq {c c' : Vars} (h : Pads c c') : hasId c' = hasId c := by
  cases h with
  | field hid => rw [hasId, hasId, Keyed.get?_insert_of_ne _ _ (Ne.symm hid)]

/-- **What fields are added and removed that say nothing does not matter.** -/
theorem Alike.addressParts_eq_and_hasId_eq {c c' : Vars} (h : Alike c c') :
    addressParts c = addressParts c' ∧ hasId c = hasId c' := by
  induction h with
  | rel c c' h => exact ⟨h.addressParts_eq.symm, h.hasId_eq.symm⟩
  | refl c => exact ⟨rfl, rfl⟩
  | symm c c' _ ih => exact ⟨ih.1.symm, ih.2.symm⟩
  | trans c c' c'' _ _ ih ih' => exact ⟨ih.1.trans ih'.1, ih.2.trans ih'.2⟩

end StorageKey

namespace Activity

open StorageKey

variable {a b : Activity} {space : String}

/-! ### Senders -/

/-- The sender comes last among the parts of a key, so it can be read off behind equal ones. -/
theorem intercalate_sender_eq_iff (parts : List String) (sender sender' : String) :
    "-".intercalate (parts ++ [sender]) = "-".intercalate (parts ++ [sender']) ↔
      sender = sender' := by
  constructor
  · intro h
    have hne (s : String) : parts ++ [s] ≠ [] := List.concat_ne_nil _ _
    have hwords := congrArg words h
    rw [words_intercalate (hne sender), words_intercalate (hne sender')] at hwords
    exact (eq_of_words_eq rfl hwords).2
  · rintro rfl
    rfl

/-- **Two activities of a channel with alike addresses share their key just when they have the same
sender**, and whatever else they are about, there is a key for one of them if there is one for the
other; if there is none, both fail for the same reason. -/
theorem storageKey_eq_iff_sender (space : String) (hchannel : a.channelId = b.channelId)
    (haddress : Alike a.conversation b.conversation) :
    (a.sender.id = b.sender.id → a.storageKey space = b.storageKey space) ∧
      (∀ e, a.storageKey space = .error e ↔ b.storageKey space = .error e) ∧
        ∀ key, a.storageKey space = .ok key →
          ∃ key', b.storageKey space = .ok key' ∧ (key = key' ↔ a.sender.id = b.sender.id) := by
  obtain ⟨hparts, hid⟩ := haddress.addressParts_eq_and_hasId_eq
  unfold storageKey
  rw [hparts, hid, hchannel]
  by_cases hmissing : hasId b.conversation = true
  case neg => simp [hmissing]
  by_cases hempty : b.channelId.isEmpty = true
  · simp [hmissing, hempty]
  · simp only [hmissing, hempty, Bool.not_true, Bool.false_eq_true, if_false]
    refine ⟨fun h => by rw [h], by simp, fun key hkey => ⟨_, rfl, ?_⟩⟩
    rw [← Except.ok.inj hkey, String.append_left_inj, String.append_left_inj,
      String.append_right_inj]
    exact intercalate_sender_eq_iff _ _ _

/-- An event of a sender in a conversation that is known by more than its id. -/
def nudge (sender : String) : Activity where
  type := "event"
  channelId := "web"
  value := some (.bool true)
  sender := ⟨sender, some "Ann"⟩
  conversation := [("id", .string "1"), ("name", .string ""),
    ("properties", .object [("team", .string "T1")])]

theorem storageKey_eq_iff_sender_nudge :
    (nudge "-ann").channelId = (message "web" "1" "ann" "Hi.").channelId ∧
      Alike (nudge "-ann").conversation (message "web" "1" "ann" "Hi.").conversation ∧
        (nudge "ann").storageKey "s" = (message "web" "1" "ann" "Hi.").storageKey "s" ∧
          (nudge "-ann").storageKey "s" = .ok "web/conversations/1--ann/s" ∧
            "web/conversations/1--ann/s" ≠ "web/conversations/1-ann/s" := by
  have hname : Pads [("id", .string "1")]
      (Keyed.insert [("id", .string "1")] "name" (.string "")) :=
    .field (by decide) rfl (.inr (.inr rfl))
  have hproperties : Pads [("id", .string "1"), ("name", .string "")]
      (Keyed.insert [("id", .string "1"), ("name", .string "")] "properties"
        (.object [("team", .string "T1")])) := .field (by decide) rfl (.inl rfl)
  have halike : Alike (nudge "ann").conversation (message "web" "1" "ann" "Hi.").conversation :=
    .symm _ _ (.trans _ _ _ (.rel _ _ hname) (.rel _ _ hproperties))
  have hkey : (nudge "-ann").storageKey "s" = .ok "web/conversations/1--ann/s" := by rfl
  have hkey' : (message "web" "1" "ann" "Hi.").storageKey "s" =
      .ok "web/conversations/1-ann/s" := by rfl
  obtain ⟨-, -, hother⟩ := storageKey_eq_iff_sender (a := nudge "-ann")
    (b := message "web" "1" "ann" "Hi.") "s" rfl halike
  refine ⟨rfl, halike, ?_, hkey, fun hsame => ?_⟩
  · exact (storageKey_eq_iff_sender (a := nudge "ann") (b := message "web" "1" "ann" "Hi.") "s" rfl
      halike).1 rfl
  · obtain ⟨key', hb, hiff⟩ := hother _ hkey
    rw [hkey'] at hb
    obtain rfl := Except.ok.inj hb
    exact absurd (hiff.1 hsame) (by decide)

end Activity

end Parley

import Mathlib.Data.List.Basic
import Parley.Command.Record

/-!
# Conversations that share a key

A storage key is made for keeping conversations apart, but it does not always do so.  It joins the
texts of the address and the sender by hyphens, and three things are lost on the way: the names of
the fields, what kind of values they have, and where one text ends and the next begins if there are
hyphens in them.

* `Activity.storageKey_eq_iff` : two activities of a channel share a key just when the `words` of
  their addresses and senders, the texts between the hyphens, are the same.
* `StorageKey.Comparable` : nothing is lost between two addresses.  They name the same fields, the
  hyphens fall on the same fields, and the values of a field have one text only if they are equal.
  Such addresses are kept apart, whoever the senders are.
* `Activity.thread_shares_key` : a thread of a conversation may share its key with the
  conversation itself, if the senders have suitable names.
-/

namespace Parley

namespace StorageKey

/-! ### Words -/

/-- The texts between the hyphens of a text. -/
def words (text : String) : List (List Char) := text.toList.splitOn '-'

/-- How many hyphens there are in a text. -/
def hyphens (text : String) : ℕ := text.toList.count '-'

theorem length_words (text : String) : (words text).length = hyphens text + 1 := by
  rw [words, hyphens, List.splitOn_eq_splitOnP]
  induction text.toList with
  | nil => rfl
  | cons c rest ih =>
    rw [List.splitOnP_cons_eq_if_modifyHead, List.count_cons]
    by_cases hc : c == '-'
    · simp [hc, ih]
    · simp [hc, ih]

theorem words_injective : Function.Injective words := by
  intro text text' h
  have hjoin (text : String) : ['-'].intercalate (words text) = text.toList :=
    List.intercalate_splitOn '-'
  rw [← String.toList_inj, ← hjoin text, ← hjoin text', h]

theorem words_intercalate {texts : List String} (h : texts ≠ []) :
    words ("-".intercalate texts) = texts.flatMap words := by
  induction texts with
  | nil => exact absurd rfl h
  | cons text rest ih =>
    cases rest with
    | nil => simp
    | cons next more =>
      have hjoin : ("-".intercalate (text :: next :: more)).toList =
          text.toList ++ '-' :: ("-".intercalate (next :: more)).toList := by simp
      rw [words, hjoin, List.splitOn_append_cons_self, List.flatMap_cons,
        ← ih (List.cons_ne_nil _ _)]
      rfl

/-! ### Addresses -/

/-- The fields of an address that take part in a key: all but the one that is excluded and those
without text, null among them. -/
def address (conversation : Vars) : Vars :=
  conversation.filter fun field => field.1 ≠ excludedField ∧ field.2.toText ≠ ""

theorem part?_eq (field : String × Json) :
    part? field =
      if field.1 ≠ excludedField ∧ field.2.toText ≠ "" then some field.2.toText else none := by
  obtain ⟨name, value⟩ := field
  by_cases hname : name = excludedField
  · simp [part?, hname]
  · cases value with
    | null => simp [part?, hname, Json.toText]
    | _ => simp only [part?, hname, if_false, String.isEmpty_iff]; split <;> simp_all

theorem addressParts_eq (conversation : Vars) :
    addressParts conversation = (address conversation).map fun field => field.2.toText := by
  rw [addressParts, address, ← List.filterMap_eq_map, List.filterMap_filter]
  refine List.filterMap_congr fun field _ => ?_
  rw [part?_eq]
  simp

/-- Nothing that tells two addresses apart is lost in their texts. -/
structure Comparable (c c' : Vars) : Prop where
  names : (address c).map Prod.fst = (address c').map Prod.fst
  hyphens : (addressParts c).map hyphens = (addressParts c').map hyphens
  texts : ∀ f ∈ address c, ∀ g ∈ address c', f.1 = g.1 → f.2.toText = g.2.toText → f.2 = g.2

theorem comparable_of_strings {c c' : Vars}
    (hnames : (address c).map Prod.fst = (address c').map Prod.fst)
    (hhyphens : (addressParts c).map hyphens = (addressParts c').map hyphens)
    (h : ∀ f ∈ c, f.2.string?.isSome) (h' : ∀ f ∈ c', f.2.string?.isSome) :
    Comparable c c' := by
  refine ⟨hnames, hhyphens, fun f hf g hg _ htext => ?_⟩
  obtain ⟨text, hf⟩ := Option.isSome_iff_exists.1 (h f (List.mem_of_mem_filter hf))
  obtain ⟨text', hg⟩ := Option.isSome_iff_exists.1 (h' g (List.mem_of_mem_filter hg))
  obtain ⟨name, value⟩ := f
  obtain ⟨name', value'⟩ := g
  cases value <;> cases hf
  cases value' <;> cases hg
  exact congrArg Json.string htext

/-- Comparable addresses are those of their texts. -/
theorem Comparable.address_eq_iff {c c' : Vars} (h : Comparable c c') :
    address c = address c' ↔ addressParts c = addressParts c' := by
  rw [addressParts_eq, addressParts_eq]
  refine ⟨congrArg _, fun htexts => ?_⟩
  refine List.ext_getElem? fun i => ?_
  have hname := congrArg (·[i]?) h.names
  have htext := congrArg (·[i]?) htexts
  simp only [List.getElem?_map] at hname htext
  cases hf : (address c)[i]? with
  | none =>
    cases hg : (address c')[i]? with
    | none => rfl
    | some g => simp [hf, hg] at hname
  | some f =>
    cases hg : (address c')[i]? with
    | none => simp [hf, hg] at hname
    | some g =>
      simp only [hf, hg, Option.map_some, Option.some.injEq] at hname htext
      exact congrArg some (Prod.ext hname (h.texts f (List.mem_of_getElem? hf) g
        (List.mem_of_getElem? hg) hname htext))

/-- Where hyphens fall on the same parts, the words tell the parts. -/
theorem eq_of_words_eq {parts parts' : List String} {sender sender' : String}
    (hhyphens : parts.map hyphens = parts'.map hyphens)
    (hwords : (parts ++ [sender]).flatMap words = (parts' ++ [sender']).flatMap words) :
    parts = parts' ∧ sender = sender' := by
  induction parts generalizing parts' with
  | nil =>
    obtain rfl := List.map_eq_nil_iff.1 hhyphens.symm
    simp only [List.nil_append, List.flatMap_singleton] at hwords
    exact ⟨rfl, words_injective hwords⟩
  | cons part rest ih =>
    cases parts' with
    | nil => cases hhyphens
    | cons part' rest' =>
      obtain ⟨hpart, hrest⟩ := List.cons.inj hhyphens
      simp only [List.cons_append, List.flatMap_cons] at hwords
      -- the first parts have as many words, so they are where both lists come apart
      obtain ⟨hfirst, hmore⟩ := List.append_inj hwords (by
        rw [length_words, length_words, hpart])
      obtain ⟨hparts, hsender⟩ := ih hrest hmore
      exact ⟨congrArg₂ _ (words_injective hfirst) hparts, hsender⟩

end StorageKey

/-! ### Keys -/

namespace Activity

open StorageKey

/-- The texts that are joined in the key of an activity. -/
def keyParts (a : Activity) : List String := addressParts a.conversation ++ [a.sender.id]

/-- A message of a sender in a thread of a conversation. -/
def inThread (thread sender : String) : Activity :=
  { message "web" "1" sender "" with
    conversation := [("id", .string "1"), ("thread", .string thread)] }

theorem storageKey_eq_of_ok {a : Activity} {space key : String} (h : a.storageKey space = .ok key) :
    key = a.channelId ++ "/conversations/" ++ "-".intercalate a.keyParts ++ "/" ++ space := by
  unfold storageKey at h
  split at h
  · cases h
  · split at h
    · cases h
    · exact (Except.ok.inj h).symm

/-- **Two activities of a channel share a key just when they have the same words**, and those whose
addresses are comparable do so only if they have the same address and the same sender. -/
theorem storageKey_eq_iff {a b : Activity} {space ka kb : String}
    (hchannel : a.channelId = b.channelId) (ha : a.storageKey space = .ok ka)
    (hb : b.storageKey space = .ok kb) :
    (ka = kb ↔ a.keyParts.flatMap words = b.keyParts.flatMap words) ∧
      (Comparable a.conversation b.conversation →
        (ka = kb ↔ address a.conversation = address b.conversation ∧
          a.sender.id = b.sender.id)) := by
  have hwords : ka = kb ↔ a.keyParts.flatMap words = b.keyParts.flatMap words := by
    have hne (c : Activity) : c.keyParts ≠ [] := List.concat_ne_nil _ _
    rw [storageKey_eq_of_ok ha, storageKey_eq_of_ok hb, hchannel, String.append_left_inj,
      String.append_left_inj, String.append_right_inj, ← words_intercalate (hne a),
      ← words_intercalate (hne b), words_injective.eq_iff]
  refine ⟨hwords, fun h => ?_⟩
  rw [hwords, h.address_eq_iff]
  constructor
  · exact eq_of_words_eq h.hyphens
  · rintro ⟨hparts, hsender⟩
    rw [keyParts, keyParts, hparts, hsender]

theorem storageKey_eq_iff_threads :
    (inThread "t" "ann").storageKey recordSpace = .ok "web/conversations/1-t-ann/dialogState" ∧
      (inThread "u" "a-b").storageKey recordSpace = .ok "web/conversations/1-u-a-b/dialogState" ∧
        Comparable (inThread "t" "ann").conversation (inThread "u" "a-b").conversation ∧
          "web/conversations/1-t-ann/dialogState" ≠ "web/conversations/1-u-a-b/dialogState" := by
  have ha : (inThread "t" "ann").storageKey recordSpace =
      .ok "web/conversations/1-t-ann/dialogState" := by rfl
  have hb : (inThread "u" "a-b").storageKey recordSpace =
      .ok "web/conversations/1-u-a-b/dialogState" := by rfl
  have hcomparable : Comparable (inThread "t" "ann").conversation
      (inThread "u" "a-b").conversation := by
    refine comparable_of_strings rfl rfl ?_ ?_ <;> simp [inThread, Json.string?]
  refine ⟨ha, hb, hcomparable, fun h => ?_⟩
  have hchannel : (inThread "t" "ann").channelId = (inThread "u" "a-b").channelId := rfl
  have hsender := (((storageKey_eq_iff hchannel ha hb).2 hcomparable).1 h).2
  exact absurd hsender (by decide)

/-- **A thread of a conversation may share its key with the conversation**, and two conversations
may share theirs, if hyphens in the names of the senders and conversations make up for what tells
them apart. -/
theorem thread_shares_key :
    (∃ key, (message "web" "1" "t-ann" "").storageKey recordSpace = .ok key ∧
      (inThread "t" "ann").storageKey recordSpace = .ok key ∧
        address (message "web" "1" "t-ann" "").conversation ≠
          address (inThread "t" "ann").conversation) ∧
      ∃ key, (message "web" "1-a" "b" "").storageKey recordSpace = .ok key ∧
        (message "web" "1" "a-b" "").storageKey recordSpace = .ok key ∧
          address (message "web" "1-a" "b" "").conversation ≠
            address (message "web" "1" "a-b" "").conversation := by
  refine ⟨⟨"web/conversations/1-t-ann/dialogState", rfl, rfl, fun h => ?_⟩,
    "web/conversations/1-a-b/dialogState", rfl, rfl, fun h => ?_⟩
  · cases h
  · have htexts : ["1-a"] = ["1"] :=
      congrArg (List.map fun field : String × Json => field.2.toText) h
    exact absurd htexts (by decide)

end Activity

end Parley

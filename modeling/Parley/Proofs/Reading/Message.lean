import Parley.Outgoing
import Parley.Proofs.Store.Script

/-!
# Messages and results read back

What a conversation says and hears, and how a dialog ended, read back like the sessions themselves.
The forms leave things out in three ways, and each is undone in its own:

* an absent field is left out and read as absent (`Decoder.Fields.optional_of_reads`);
* an empty list or table is left out and read as empty (`Decoder.Fields.orElse_unless`), while an
  empty list of attachments is written;
* an absent text or value of an activity is written as null (`Decoder.Fields.optional_orNull`).

A field that may be absent is read as absent also where it is null.  So a value that is there and is
null does not read back, and `Activity.Exact` and `OutgoingMessage.Exact` exclude it.
-/

namespace Parley

open Decoder (Fields)
open Json (lookup_memberIf lookup_cons_members forall_mem_memberIf)

namespace Decoder

variable {α : Type} {d : Decoder α} {toJson : α → Json}

theorem ite_none_bind {β : Type} {c : Prop} [Decidable c] (x : α) (next : α → Option β) :
    (if c then some x else none).bind next = if c then next x else none := by
  split <;> rfl

theorem Reads.integral_of_map {y : Option α} (h : ∀ x, y = some x → d.Reads (toJson x) x) (v : Json)
    (hv : y.map toJson = some v) : v.Integral := by
  obtain ⟨x, hx, rfl⟩ := Option.map_eq_some_iff.1 hv
  exact (h x hx).integral

theorem Reads.integral_orNull {y : Option α} (h : ∀ x, y = some x → d.Reads (toJson x) x) :
    (Json.orNull (y.map toJson)).Integral := by
  cases y with
  | none => trivial
  | some x => exact (h x rfl).integral

theorem reads_jsons {items : List Json} (h : ∀ v ∈ items, v.Exact) :
    Reads (list json) (.array items) items := by
  have hread : Reads (list json) (.array (items.map id)) items :=
    .list fun v hv => reads_json (h v hv)
  rwa [List.map_id] at hread

namespace Fields

variable {f : Fields} {name : String}

theorem optional_orNull {y : Option α}
    (hfield : f.field? name = some (Json.orNull (y.map toJson)).document)
    (h : ∀ x, y = some x → d.Reads (toJson x) x) (hnull : ∀ x, y = some x → toJson x ≠ .null) :
    f.optional name d =
      if (Json.orNull (y.map toJson)).depth ≤ f.depth then some y else none := by
  cases y with
  | none =>
    rw [Fields.optional, orElse, hfield]
    exact (if_pos (Nat.zero_le f.depth)).symm
  | some x =>
    rw [optional_of_reads toJson hfield h fun x hx => Json.document_ne_null (hnull x hx)]
    refine if_congr ⟨fun hall => hall _ rfl, fun hle v hv => ?_⟩ rfl rfl
    exact Option.some.inj hv ▸ hle

/-- A field that is left out when it is as good as missing. -/
theorem orElse_unless {c : Prop} [Decidable c] {v : Json} {x missing : α}
    (hfield : f.field? name = (if c then none else some v : Option Json).map Json.document)
    (h : d.Reads v x) (hmissing : c → x = missing) :
    f.orElse name d missing =
      if ∀ w, (if c then none else some v) = some w → w.depth ≤ f.depth then some x else none := by
  by_cases hc : c
  · rw [if_pos hc] at hfield
    rw [orElse, hfield, hmissing hc]
    simp [hc]
  · rw [if_neg hc] at hfield
    rw [orElse_of_reads hfield h]
    simp [hc]

end Fields

end Decoder

/-! ### Places, outcomes and results -/

/-- A place whose line number is a word of 64 bits. -/
def Location.Exact (l : Location) : Prop := l.index < Session.indexBound

theorem Location.reads {l : Location} (h : l.Exact) : decoder.Reads l.toJson l := by
  have hindex := Decoder.reads_index h
  refine Decoder.reads_record (by simp) (by simp) (by simp [hindex.integral]) fun depth => ?_
  simp only [lookup_cons_members, List.forall_mem_cons]
  rw [Fields.required_string (s := l.thread) (by simp),
    Fields.required_of_flat (by simp) hindex rfl]
  simp

/-- The form of an outcome. -/
def TurnStatus.toJson (s : TurnStatus) : Json := .string s.name

theorem TurnStatus.reads (s : TurnStatus) : decoder.Reads s.toJson s := by
  refine Decoder.reads_choice ?_
  cases s <;> simp [names, name, List.lookup_cons]

theorem DialogResult.reads {r : DialogResult} (h : r.Exact) : decoder.Reads r.toJson r := by
  have hvalues := Decoder.reads_vars h
  refine Decoder.reads_record (by simp) (by simp) (by simp [hvalues.integral]) fun depth => ?_
  simp only [lookup_cons_members, List.forall_mem_cons]
  rw [Fields.required_of_flat (by simp) (DialogStatus.reads r.status) rfl,
    Fields.required_of_reads (by simp) hvalues]
  by_cases hdepth : (Json.object r.values).depth ≤ depth <;> simp [hdepth]

/-! ### Activities -/

theorem Account.reads (a : Account) : decoder.Reads a.toJson a := by
  refine Decoder.reads_record ?_ ?_ ?_ fun depth => ?_
  · cases a.name <;> simp [Json.memberIf]
  · cases a.name <;> simp [Json.memberIf]
  · cases a.name <;> simp [Json.memberIf]
  · rw [Fields.required_string (s := a.id) (by simp),
      Fields.optional_string (s := a.name)
        (by cases a.name <;> simp [Json.memberIf, lookup_cons_members])]
    obtain ⟨id, name⟩ := a
    cases name <;> simp [Json.memberIf]

/-- An activity that reads back: its value is not null. -/
structure Activity.Exact (a : Activity) : Prop where
  value : ∀ v, a.value = some v → v.Exact ∧ v ≠ .null
  conversation : (Json.object a.conversation).Exact

theorem Activity.reads {a : Activity} (h : a.Exact) : decoder.Reads a.toJson a := by
  have htext : ∀ s, a.text = some s → Decoder.string.Reads (.string s) s :=
    fun s _ => Decoder.reads_string s
  have hvalue : ∀ v, a.value = some v → Decoder.Reads .json (id v) v :=
    fun v hv => Decoder.reads_json (h.value v hv).1
  have hsender := Account.reads a.sender
  have hconversation := Decoder.reads_vars h.conversation
  have hid : a.value.map id = a.value := Option.map_id'
  refine Decoder.reads_record (by simp) (by simp) ?_ fun depth => ?_
  · have hnull := Decoder.Reads.integral_orNull hvalue
    rw [hid] at hnull
    simp [Decoder.Reads.integral_orNull htext, hnull, hsender.integral, hconversation.integral]
  · have hflat : (Json.orNull (a.text.map .string)).depth = 0 := by cases a.text <;> rfl
    simp only [lookup_cons_members, List.forall_mem_cons]
    rw [Fields.required_string (s := a.type) (by simp),
      Fields.required_string (s := a.channelId) (by simp),
      Fields.optional_orNull (by simp) htext (fun _ _ => Json.noConfusion),
      Fields.optional_orNull (by simp [hid]) hvalue (fun v hv => (h.value v hv).2),
      Fields.required_of_reads (by simp) hsender,
      Fields.orElse_of_reads (by simp) hconversation]
    simp only [Option.bind_eq_bind, Option.bind_some, Decoder.ite_none_bind, ← ite_and, hid]
    refine if_congr ?_ rfl rfl
    simp [hflat]

/-! ### Messages -/

/-- A button that reads back. -/
structure CardAction.Exact (a : CardAction) : Prop where
  title : a.title.Exact
  text : a.text.Exact
  displayText : a.displayText.Exact
  value : a.value.Exact

theorem CardAction.reads {a : CardAction} (h : a.Exact) : decoder.Reads a.toJson a := by
  have htitle := Decoder.reads_json h.title
  have htext := Decoder.reads_json h.text
  have hdisplay := Decoder.reads_json h.displayText
  have hvalue := Decoder.reads_json h.value
  refine Decoder.reads_record (by simp) (by simp) ?_ fun depth => ?_
  · simp [htitle.integral, htext.integral, hdisplay.integral, hvalue.integral]
  · simp only [lookup_cons_members, List.forall_mem_cons]
    rw [Fields.required_string (s := a.type) (by simp),
      Fields.required_of_reads (by simp) htitle, Fields.required_of_reads (by simp) htext,
      Fields.required_of_reads (by simp) hdisplay, Fields.required_of_reads (by simp) hvalue]
    simp only [Option.bind_eq_bind, Option.bind_some, Decoder.ite_none_bind, ← ite_and]
    refine if_congr ?_ rfl rfl
    simp

/-- A message that reads back: its value is not null. -/
structure OutgoingMessage.Exact (m : OutgoingMessage) : Prop where
  value : ∀ v, m.value = some v → v.Exact ∧ v ≠ .null
  attachments : ∀ items, m.attachments = some items → ∀ v ∈ items, v.Exact
  suggestedActions : ∀ a ∈ m.suggestedActions, a.Exact
  channelData : (Json.object m.channelData).Exact

theorem OutgoingMessage.reads {m : OutgoingMessage} (h : m.Exact) : decoder.Reads m.toJson m := by
  have hvalue : ∀ v, m.value = some v → Decoder.Reads .json (id v) v :=
    fun v hv => Decoder.reads_json (h.value v hv).1
  have hattachments : ∀ items, m.attachments = some items →
      Decoder.Reads (.list .json) (.array items) items :=
    fun items hitems => Decoder.reads_jsons (h.attachments items hitems)
  have hactions : Decoder.Reads (.list CardAction.decoder)
      (.array (m.suggestedActions.map CardAction.toJson)) m.suggestedActions :=
    .list fun a ha => CardAction.reads (h.suggestedActions a ha)
  have hdata := Decoder.reads_vars h.channelData
  have hid : m.value.map id = m.value := Option.map_id'
  rw [toJson, Json.ite_nil_member, Json.ite_nil_member]
  refine Decoder.reads_record ?_ ?_ ?_ fun depth => ?_
  · simp only [List.forall_mem_append, forall_mem_memberIf, List.forall_mem_cons]
    simp
  -- which keys there are, and so that none comes twice, depends on what is left out
  · cases m.value <;> cases m.attachmentLayout <;> cases m.attachments <;>
      cases m.suggestedActions <;> cases m.channelData <;> simp [Json.memberIf]
  · have hvalueIntegral := Decoder.Reads.integral_of_map hvalue
    rw [hid] at hvalueIntegral
    simp only [List.forall_mem_append, forall_mem_memberIf, List.forall_mem_cons]
    refine ⟨⟨⟨⟨⟨⟨trivial, trivial, by simp⟩, hvalueIntegral⟩, by simp⟩,
      Decoder.Reads.integral_of_map hattachments⟩, fun v hv => ?_⟩, fun v hv => ?_⟩
    · split at hv
      · cases hv
      · exact Option.some.inj hv ▸ hactions.integral
    · split at hv
      · cases hv
      · exact Option.some.inj hv ▸ hdata.integral
  · simp only [List.forall_mem_append, forall_mem_memberIf, List.forall_mem_cons,
      List.lookup_append, lookup_memberIf, lookup_cons_members]
    rw [Fields.required_string (s := m.type) (by simp),
      Fields.required_string (s := m.text) (by simp),
      Fields.optional_of_reads id (by simp [hid]) hvalue
        (fun v hv => Json.document_ne_null (h.value v hv).2),
      Fields.optional_string (s := m.attachmentLayout) (by simp),
      Fields.optional_of_reads .array (by simp) hattachments (fun _ _ => Document.noConfusion),
      Fields.orElse_unless (c := m.suggestedActions.isEmpty) (by simp) hactions List.isEmpty_iff.1,
      Fields.orElse_unless (c := List.isEmpty m.channelData) (by simp) hdata List.isEmpty_iff.1,
      hid]
    simp only [Option.bind_eq_bind, Option.bind_some, Decoder.ite_none_bind, ← ite_and]
    refine if_congr ?_ rfl rfl
    simp [and_assoc]

end Parley

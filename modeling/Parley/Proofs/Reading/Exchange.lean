import Parley.Proofs.Reading.Message

/-!
# Reading and writing again

Whatever a text is decoded as can be written and reads back.  Two things could stand in the way.  A
text may leave out what the form of its meaning spells out, an empty table, so the form may nest
deeper than the text did; but only where the text has room to spare, since a missing table adds one
level to a record that is at least one level below the limit.  And a text may say what no form says,
keys out of order or the value null; but then what it is decoded as does not show it any more.

`Decoder.Yields` says both of a decoder, and is proved along its definition: for free values by
recursion on the document, for records field by field.  With what is known of reading
(`Decoder.Reads`) it gives the main statement, for every kind of thing that is stored or exchanged:

* `Exchanged.decoding_undoes_encoding` : what is written reads back just when it is not too deep,
  and whatever has been read is read again.
-/

namespace Parley

open Decoder (Fields)
open Json (forall_mem_memberIf)

namespace Decoder

variable {α : Type} {d : Decoder α} {toJson : α → Json} {Exact : α → Prop} {least : ℕ}

/-- What a decoder yields is written no deeper than the decoder may look, if it may look a few
levels deep, and reads back if its numbers are integers. -/
def Yields (d : Decoder α) (toJson : α → Json) (Exact : α → Prop) (least : ℕ) : Prop :=
  ∀ ⦃depth : ℕ⦄ ⦃doc : Document⦄ ⦃x : α⦄, d depth doc = some x →
    (least ≤ depth → (toJson x).depth ≤ depth) ∧ ((toJson x).Integral → Exact x)

/-- **What is read from a text can be written and read again.** -/
theorem Yields.text?_render (h : d.Yields toJson Exact least) (hleast : least ≤ depthLimit)
    (hreads : ∀ x, Exact x → d.Reads (toJson x) x) {text : String} {x : α}
    (hread : d.text? text = some x) (hintegral : (toJson x).Integral) :
    d.text? (toJson x).render = some x := by
  obtain ⟨doc, -, hdoc⟩ := Option.bind_eq_some_iff.1 hread
  obtain ⟨hdepth, hexact⟩ := h hdoc
  rw [(hreads x (hexact hintegral)).text?_render, if_pos (hdepth hleast)]

/-! ### Free values -/

mutual

/-- A free value comes in order, and no deeper than the decoder may look. -/
theorem json_eq_some : (doc : Document) → {depth : ℕ} → {v : Json} → json depth doc = some v →
    v.Ordered ∧ v.depth ≤ depth
  | .null, depth, v, h => by
    have hv : v = .null := by cases depth <;> exact (Option.some.inj h).symm
    subst hv
    exact ⟨trivial, Nat.zero_le depth⟩
  | .bool b, depth, v, h => by
    have hv : v = .bool b := by cases depth <;> exact (Option.some.inj h).symm
    subst hv
    exact ⟨trivial, Nat.zero_le depth⟩
  | .number n, depth, v, h => by
    have hn : n.map Json.number = some v := by cases depth <;> exact h
    obtain ⟨m, -, rfl⟩ := Option.map_eq_some_iff.1 hn
    exact ⟨trivial, Nat.zero_le depth⟩
  | .string s, depth, v, h => by
    have hs : s.map Json.string = some v := by cases depth <;> exact h
    obtain ⟨t, -, rfl⟩ := Option.map_eq_some_iff.1 hs
    exact ⟨trivial, Nat.zero_le depth⟩
  | .array items, 0, v, h => by cases h
  | .array items, depth + 1, v, h => by
    obtain ⟨vs, hvs, rfl⟩ := Option.map_eq_some_iff.1 h
    obtain ⟨hordered, hdepth⟩ := jsonItems_eq_some items hvs
    exact ⟨hordered, Json.depth_array_le_iff.2 hdepth⟩
  | .object members, 0, v, h => by cases h
  | .object members, depth + 1, v, h => by
    obtain ⟨vars, hvars, rfl⟩ := Option.map_eq_some_iff.1 h
    obtain ⟨hsorted, hmembers⟩ := jsonMembers_eq_some members hvars .nil fun m hm => by cases hm
    exact ⟨⟨hsorted, Json.orderedMembers_iff.2 fun m hm => (hmembers m hm).1⟩,
      Json.depth_object_le_iff.2 fun m hm => (hmembers m hm).2⟩

@[inherit_doc json_eq_some]
theorem jsonItems_eq_some : (items : List Document) → {depth : ℕ} → {vs : List Json} →
    jsonItems depth items = some vs → Json.OrderedItems vs ∧ ∀ v ∈ vs, v.depth ≤ depth
  | [], depth, vs, h => by
    obtain rfl := Option.some.inj h
    exact ⟨trivial, fun v hv => by cases hv⟩
  | doc :: items, depth, vs, h => by
    rw [jsonItems] at h
    obtain ⟨v, hv, h⟩ := Option.bind_eq_some_iff.1 h
    obtain ⟨rest, hrest, rfl⟩ := Option.map_eq_some_iff.1 h
    obtain ⟨hordered, hdepth⟩ := json_eq_some doc hv
    obtain ⟨hitems, hdepths⟩ := jsonItems_eq_some items hrest
    exact ⟨⟨hordered, hitems⟩, List.forall_mem_cons.2 ⟨hdepth, hdepths⟩⟩

@[inherit_doc json_eq_some]
theorem jsonMembers_eq_some : (members : List (Option String × Document)) → {depth : ℕ} →
    {done vars : Vars} → jsonMembers depth done members = some vars → Keyed.Sorted done →
    (∀ m ∈ done, m.2.Ordered ∧ m.2.depth ≤ depth) →
    Keyed.Sorted vars ∧ ∀ m ∈ vars, m.2.Ordered ∧ m.2.depth ≤ depth
  | [], depth, done, vars, h, hsorted, hdone => by
    rw [jsonMembers] at h
    obtain rfl := Option.some.inj h
    exact ⟨hsorted, hdone⟩
  | (none, doc) :: members, depth, done, vars, h, _, _ => by
    rw [jsonMembers] at h
    cases h
  | (some key, doc) :: members, depth, done, vars, h, hsorted, hdone => by
    rw [jsonMembers] at h
    obtain ⟨v, hv, h⟩ := Option.bind_eq_some_iff.1 h
    -- a key that comes twice takes the place of what it had, so the order is kept
    refine jsonMembers_eq_some members h (Keyed.insert_sorted hsorted key v) fun m hm => ?_
    rcases Keyed.mem_insert hm with rfl | hm
    · exact json_eq_some doc hv
    · exact hdone m hm

end

/-- Nothing but null is decoded as null. -/
theorem ne_null_of_json {depth : ℕ} {doc : Document} {v : Json} (h : json depth doc = some v)
    (hdoc : doc ≠ .null) : v ≠ .null := by
  rintro rfl
  cases doc with
  | null => exact hdoc rfl
  | bool b => cases depth <;> cases h
  | number n => cases n <;> cases depth <;> cases h
  | string s => cases s <;> cases depth <;> cases h
  | array items =>
    cases depth with
    | zero => cases h
    | succ depth =>
      obtain ⟨vs, -, hvs⟩ := Option.map_eq_some_iff.1 h
      cases hvs
  | object members =>
    cases depth with
    | zero => cases h
    | succ depth =>
      obtain ⟨vars, -, hvars⟩ := Option.map_eq_some_iff.1 h
      cases hvars

theorem yields_json : Yields json id Json.Exact 0 := fun _ doc _ h =>
  ⟨fun _ => (json_eq_some doc h).2, fun hintegral => ⟨(json_eq_some doc h).1, hintegral⟩⟩

theorem yields_vars : Yields vars Json.object (fun values => (Json.object values).Exact) 0 := by
  intro depth doc values h
  cases depth with
  | zero => cases doc <;> cases h
  | succ depth =>
    cases doc with
    | object members =>
      rw [vars_object] at h
      have hjson : json (depth + 1) (.object members) = some (.object values) := by
        rw [json, h]
        rfl
      exact yields_json hjson
    | null | bool | number | string | array => cases h

/-! ### Lists and records -/

theorem exists_of_mapM {β : Type} {f : β → Option α} {items : List β} {xs : List α}
    (h : items.mapM f = some xs) : ∀ x ∈ xs, ∃ item ∈ items, f item = some x := by
  induction items generalizing xs with
  | nil =>
    obtain rfl := Option.some.inj h
    exact fun x hx => by cases hx
  | cons item items ih =>
    simp only [List.mapM_cons, Option.bind_eq_bind, Option.bind_eq_some_iff] at h
    obtain ⟨y, hy, ys, hys, h⟩ := h
    obtain rfl := Option.some.inj h
    refine List.forall_mem_cons.2 ⟨⟨item, List.mem_cons_self, hy⟩, fun x hx => ?_⟩
    obtain ⟨other, hmem, hother⟩ := ih hys x hx
    exact ⟨other, List.mem_cons_of_mem _ hmem, hother⟩

theorem exists_of_list {depth : ℕ} {doc : Document} {xs : List α}
    (h : d.list depth doc = some xs) :
    ∃ below, depth = below + 1 ∧ ∀ x ∈ xs, ∃ item, d below item = some x := by
  cases depth with
  | zero => cases h
  | succ below =>
    cases doc with
    | array items =>
      refine ⟨below, rfl, fun x hx => ?_⟩
      obtain ⟨item, -, hitem⟩ := exists_of_mapM h x hx
      exact ⟨item, hitem⟩
    | null | bool | number | string | object => cases h

/-- A record may come as an object or, its fields in order, as an array. -/
theorem exists_of_record {names : List String} {read : Fields → Option α} {depth : ℕ}
    {doc : Document} {x : α} (h : record names read depth doc = some x) :
    ∃ f : Fields, depth = f.depth + 1 ∧ read f = some x := by
  cases depth with
  | zero => cases doc <;> cases h
  | succ depth =>
    cases doc with
    | array items =>
      rw [record] at h
      split at h
      · exact ⟨_, rfl, h⟩
      · cases h
    | object documents =>
      obtain ⟨known, -, hread⟩ := Option.bind_eq_some_iff.1 h
      exact ⟨_, rfl, hread⟩
    | null | bool | number | string => cases h

theorem Yields.list (h : d.Yields toJson Exact least) :
    d.list.Yields (fun xs => .array (xs.map toJson)) (fun xs => ∀ x ∈ xs, Exact x) (least + 1) := by
  intro depth doc xs hxs
  obtain ⟨below, rfl, hitems⟩ := exists_of_list hxs
  refine ⟨fun hleast => Json.depth_array_le_iff.2 fun v hv => ?_, fun hintegral x hx => ?_⟩
  · obtain ⟨x, hx, rfl⟩ := List.mem_map.1 hv
    obtain ⟨item, hitem⟩ := hitems x hx
    exact (h hitem).1 (Nat.le_of_succ_le_succ hleast)
  · obtain ⟨item, hitem⟩ := hitems x hx
    exact (h hitem).2 (Json.integralItems_iff.1 hintegral _ (List.mem_map_of_mem hx))

theorem yields_jsons : (list json).Yields .array (fun items => ∀ v ∈ items, v.Exact) 1 := by
  have h := yields_json.list
  simp only [List.map_id] at h
  exact h

theorem yields_record {names : List String} {read : Fields → Option α}
    {members : α → List (String × Json)}
    (h : ∀ (f : Fields) (x : α), read f = some x →
      (least ≤ f.depth → ∀ m ∈ members x, m.2.depth ≤ f.depth) ∧
        ((∀ m ∈ members x, m.2.Integral) → Exact x)) :
    (record names read).Yields (fun x => .object (members x)) Exact (least + 1) := by
  intro depth doc x hx
  obtain ⟨f, rfl, hread⟩ := exists_of_record hx
  exact ⟨fun hleast => Json.depth_object_le_iff.2 ((h f x hread).1 (Nat.le_of_succ_le_succ hleast)),
    fun hintegral => (h f x hread).2 (Json.integralMembers_iff.1 hintegral)⟩

namespace Fields

variable {f : Fields} {name : String} {x : α}

theorem exists_of_required (h : f.required name d = some x) : ∃ doc, d f.depth doc = some x := by
  obtain ⟨doc, -, hdoc⟩ := Option.bind_eq_some_iff.1 h
  exact ⟨doc, hdoc⟩

theorem exists_of_orElse {missing : α} (h : f.orElse name d missing = some x) :
    x = missing ∨ ∃ doc, d f.depth doc = some x := by
  unfold orElse at h
  split at h
  · exact .inl (Option.some.inj h).symm
  · exact .inr ⟨_, h⟩

theorem exists_of_optional (h : f.optional name d = some (some x)) :
    ∃ doc, doc ≠ .null ∧ d f.depth doc = some x := by
  obtain hmissing | ⟨doc, hdoc⟩ := exists_of_orElse h
  · cases hmissing
  · unfold Decoder.optional at hdoc
    split at hdoc
    · cases hdoc
    · next hnull =>
      obtain ⟨y, hy, hxy⟩ := Option.map_eq_some_iff.1 hdoc
      exact ⟨_, hnull, Option.some.inj hxy ▸ hy⟩

theorem yields_table {values : Vars} (h : f.orElse name .vars [] = some values) :
    (1 ≤ f.depth → (Json.object values).depth ≤ f.depth) ∧
      ((Json.object values).Integral → (Json.object values).Exact) := by
  obtain rfl | ⟨doc, hdoc⟩ := exists_of_orElse h
  · exact ⟨id, fun _ => Json.exact_object_nil⟩
  · exact ⟨fun _ => (yields_vars hdoc).1 (Nat.zero_le _), (yields_vars hdoc).2⟩

end Fields

end Decoder

/-! ### Sessions and stacks -/

theorem Json.lt_of_integral_ofNat {n : ℕ} (h : (Json.ofNat n).Integral) :
    n < Session.indexBound := by
  have hn : (n : Int) < 2 ^ 64 := h.2
  show n < 2 ^ 64
  omega

theorem LaunchOptions.yields : decoder.Yields toJson Exact 2 := by
  refine Decoder.yields_record fun f o hread => ?_
  simp only [Option.bind_eq_bind, Option.bind_eq_some_iff] at hread
  obtain ⟨thread, -, channel, -, values, hvalues, ho⟩ := hread
  obtain rfl := Option.some.inj ho
  obtain ⟨hdepth, hexact⟩ := Fields.yields_table hvalues
  simp only [List.forall_mem_append, forall_mem_memberIf, List.forall_mem_singleton]
  exact ⟨fun hleast => ⟨⟨by simp, by simp⟩, hdepth hleast⟩, fun hintegral => hexact hintegral.2⟩

theorem Session.yields : decoder.Yields toJson Exact 3 := by
  refine Decoder.yields_record fun f s hread => ?_
  simp only [Option.bind_eq_bind, Option.bind_eq_some_iff] at hread
  obtain ⟨thread, -, stepIndex, -, resumeIndex, -, values, hvalues, status, -, options, hoptions,
    rngState, -, hs⟩ := hread
  obtain rfl := Option.some.inj hs
  obtain ⟨_, hvalues⟩ := Fields.exists_of_required hvalues
  obtain ⟨_, hoptions⟩ := Fields.exists_of_required hoptions
  obtain ⟨hdepth, hexact⟩ := Decoder.yields_vars hvalues
  obtain ⟨hdepth', hexact'⟩ := LaunchOptions.yields hoptions
  simp only [List.forall_mem_append, forall_mem_memberIf, List.forall_mem_cons]
  refine ⟨fun hleast => ?_, fun hintegral => ?_⟩
  · exact ⟨⟨by simp, by simp⟩, hdepth (Nat.zero_le _), by simp, hdepth' hleast, by simp⟩
  · obtain ⟨⟨⟨-, hstep, -⟩, hresume⟩, hvalues, -, hoptions, -⟩ := hintegral
    exact ⟨Json.lt_of_integral_ofNat hstep,
      fun i hi => Json.lt_of_integral_ofNat (hresume _ (congrArg (Option.map Json.ofNat) hi)),
      hexact hvalues, hexact' hoptions⟩

theorem StoredFrame.yields : decoder.Yields toJson (fun f => f.session.Exact) 4 := by
  refine Decoder.yields_record fun f x hread => ?_
  simp only [Option.bind_eq_bind, Option.bind_eq_some_iff] at hread
  obtain ⟨dialog, -, session, hsession, hx⟩ := hread
  obtain rfl := Option.some.inj hx
  obtain ⟨_, hsession⟩ := Fields.exists_of_required hsession
  obtain ⟨hdepth, hexact⟩ := Session.yields hsession
  simp only [List.forall_mem_cons]
  exact ⟨fun hleast => ⟨by simp, hdepth hleast, by simp⟩, fun hintegral => hexact hintegral.2.1⟩

theorem Snapshot.yields : decoder.Yields toJson Exact 6 := by
  refine Decoder.yields_record fun f x hread => ?_
  simp only [Option.bind_eq_bind, Option.bind_eq_some_iff] at hread
  obtain ⟨frames, hframes, hx⟩ := hread
  obtain rfl := Option.some.inj hx
  obtain ⟨_, hframes⟩ := Fields.exists_of_required hframes
  obtain ⟨hdepth, hexact⟩ := StoredFrame.yields.list hframes
  simp only [List.forall_mem_cons]
  exact ⟨fun hleast => ⟨hdepth hleast, by simp⟩, fun hintegral => hexact hintegral.1⟩

/-! ### Places, outcomes and results -/

theorem Location.yields : decoder.Yields toJson Exact 1 := by
  refine Decoder.yields_record fun f l hread => ?_
  simp only [List.forall_mem_cons]
  exact ⟨fun _ => ⟨by simp, by simp, by simp⟩,
    fun hintegral => Json.lt_of_integral_ofNat hintegral.2.1⟩

theorem TurnStatus.yields : decoder.Yields toJson (fun _ => True) 0 :=
  fun _ _ _ _ => ⟨fun _ => Nat.zero_le _, fun _ => trivial⟩

theorem DialogResult.yields : decoder.Yields toJson Exact 1 := by
  refine Decoder.yields_record fun f r hread => ?_
  simp only [Option.bind_eq_bind, Option.bind_eq_some_iff] at hread
  obtain ⟨status, -, values, hvalues, hr⟩ := hread
  obtain rfl := Option.some.inj hr
  obtain ⟨_, hvalues⟩ := Fields.exists_of_required hvalues
  obtain ⟨hdepth, hexact⟩ := Decoder.yields_vars hvalues
  simp only [List.forall_mem_cons]
  exact ⟨fun _ => ⟨by simp, hdepth (Nat.zero_le _), by simp⟩, fun hintegral => hexact hintegral.2.1⟩

/-! ### Activities and messages -/

theorem Account.yields : decoder.Yields toJson (fun _ => True) 1 := by
  refine Decoder.yields_record fun f a hread => ?_
  simp only [List.forall_mem_cons, forall_mem_memberIf]
  exact ⟨fun _ => ⟨by simp, by simp⟩, fun _ => trivial⟩

theorem Decoder.Fields.yields_value {f : Fields} {name : String} {value : Option Json}
    (h : f.optional name .json = some value) :
    ∀ v, value = some v → v.depth ≤ f.depth ∧ (v.Integral → v.Exact ∧ v ≠ .null) := by
  rintro v rfl
  obtain ⟨doc, hnull, hdoc⟩ := exists_of_optional h
  obtain ⟨hdepth, hexact⟩ := yields_json hdoc
  exact ⟨hdepth (Nat.zero_le _), fun hintegral => ⟨hexact hintegral, ne_null_of_json hdoc hnull⟩⟩

theorem Activity.yields : decoder.Yields toJson Exact 2 := by
  refine Decoder.yields_record fun f a hread => ?_
  simp only [Option.bind_eq_bind, Option.bind_eq_some_iff] at hread
  obtain ⟨type, -, channelId, -, text, -, value, hvalue, sender, hsender, conversation,
    hconversation, ha⟩ := hread
  obtain rfl := Option.some.inj ha
  obtain ⟨_, hsender⟩ := Fields.exists_of_required hsender
  obtain ⟨hdepth, hexact⟩ := Fields.yields_table hconversation
  have hvalue := Fields.yields_value hvalue
  simp only [List.forall_mem_cons]
  refine ⟨fun hleast => ⟨by simp, by simp, ?_, ?_, (Account.yields hsender).1 hleast, hdepth hleast,
    by simp⟩, fun hintegral => ?_⟩
  · cases text <;> exact Nat.zero_le _
  · cases value with
    | none => exact Nat.zero_le _
    | some v => exact (hvalue v rfl).1
  · obtain ⟨-, -, -, hintegralValue, -, hintegral, -⟩ := hintegral
    refine ⟨fun v hv => (hvalue v hv).2 ?_, hexact hintegral⟩
    subst hv
    exact hintegralValue

theorem CardAction.yields : decoder.Yields toJson Exact 1 := by
  refine Decoder.yields_record fun f a hread => ?_
  simp only [Option.bind_eq_bind, Option.bind_eq_some_iff] at hread
  obtain ⟨type, -, title, htitle, text, htext, display, hdisplay, value, hvalue, ha⟩ := hread
  obtain rfl := Option.some.inj ha
  obtain ⟨_, htitle⟩ := Fields.exists_of_required htitle
  obtain ⟨_, htext⟩ := Fields.exists_of_required htext
  obtain ⟨_, hdisplay⟩ := Fields.exists_of_required hdisplay
  obtain ⟨_, hvalue⟩ := Fields.exists_of_required hvalue
  have hjson := Decoder.yields_json
  simp only [List.forall_mem_cons]
  refine ⟨fun _ => ⟨by simp, (hjson htitle).1 (Nat.zero_le _), (hjson htext).1 (Nat.zero_le _),
    (hjson hdisplay).1 (Nat.zero_le _), (hjson hvalue).1 (Nat.zero_le _), by simp⟩,
    fun ⟨_, h₁, h₂, h₃, h₄, _⟩ => ?_⟩
  exact ⟨(hjson htitle).2 h₁, (hjson htext).2 h₂, (hjson hdisplay).2 h₃, (hjson hvalue).2 h₄⟩

theorem OutgoingMessage.yields : decoder.Yields toJson Exact 3 := by
  rw [show toJson = fun m => _ from funext fun m => by
    rw [toJson, Json.ite_nil_member, Json.ite_nil_member]]
  refine Decoder.yields_record fun f m hread => ?_
  simp only [Option.bind_eq_bind, Option.bind_eq_some_iff] at hread
  obtain ⟨type, -, text, -, value, hvalue, layout, -, attachments, hattachments, actions, hactions,
    data, hdata, hm⟩ := hread
  obtain rfl := Option.some.inj hm
  have hvalue := Fields.yields_value hvalue
  have hitems (items : List Json) (hitems : attachments = some items) :
      (2 ≤ f.depth → (Json.array items).depth ≤ f.depth) ∧
        ((Json.array items).Integral → ∀ v ∈ items, v.Exact) := by
    subst hitems
    obtain ⟨_, -, hitems⟩ := Fields.exists_of_optional hattachments
    obtain ⟨hdepth, hexact⟩ := Decoder.yields_jsons hitems
    exact ⟨fun hleast => hdepth (Nat.le_of_succ_le hleast), hexact⟩
  have hactions : (2 ≤ f.depth → (Json.array (actions.map CardAction.toJson)).depth ≤ f.depth) ∧
      ((Json.array (actions.map CardAction.toJson)).Integral → ∀ a ∈ actions, a.Exact) := by
    obtain rfl | ⟨_, hactions⟩ := Fields.exists_of_orElse hactions
    · exact ⟨Nat.le_of_succ_le, fun _ a ha => by cases ha⟩
    · exact CardAction.yields.list hactions
  obtain ⟨hdepth, hexact⟩ := Fields.yields_table hdata
  simp only [List.forall_mem_append, forall_mem_memberIf, List.forall_mem_cons]
  refine ⟨fun hleast => ?_, fun hintegral => ?_⟩
  · refine ⟨⟨⟨⟨⟨⟨by simp, by simp, by simp⟩, fun v hv => (hvalue v hv).1⟩, by simp⟩,
      fun w hw => ?_⟩, fun w hw => ?_⟩, fun w hw => ?_⟩
    · obtain ⟨items, rfl, rfl⟩ := Option.map_eq_some_iff.1 hw
      exact (hitems items rfl).1 hleast
    · split at hw
      · cases hw
      · exact Option.some.inj hw ▸ hactions.1 hleast
    · split at hw
      · cases hw
      · exact Option.some.inj hw ▸ hdepth (Nat.le_of_succ_le hleast)
  · obtain ⟨⟨⟨⟨⟨-, hvalues⟩, -⟩, hattachments⟩, hcards⟩, htable⟩ := hintegral
    refine ⟨fun v hv => (hvalue v hv).2 (hvalues v hv), fun items h => ?_, fun a ha => ?_, ?_⟩
    · exact (hitems items h).2 (hattachments _ (congrArg (Option.map Json.array) h))
    · have hsome : actions.isEmpty = false := by cases actions <;> [cases ha; rfl]
      exact hactions.2 (hcards _ (if_neg (Bool.eq_false_iff.1 hsome))) a ha
    · cases data with
      | nil => exact Json.exact_object_nil
      | cons m rest => exact hexact (htable _ rfl)

/-! ### Everything that is stored or exchanged -/

/-- The kinds of things that are stored or exchanged. -/
inductive Exchanged where
  | snapshot
  | session
  | options
  | result
  | location
  | outcome
  | message
  | activity
deriving DecidableEq, Repr

namespace Exchanged

/-- The things of a kind. -/
@[reducible] def Carrier : Exchanged → Type
  | snapshot => Snapshot
  | session => Session
  | options => LaunchOptions
  | result => DialogResult
  | location => Location
  | outcome => TurnStatus
  | message => OutgoingMessage
  | activity => Activity

/-- The JSON form of a thing. -/
def toJson : (kind : Exchanged) → kind.Carrier → Json
  | snapshot => Snapshot.toJson
  | session => Session.toJson
  | options => LaunchOptions.toJson
  | result => DialogResult.toJson
  | location => Location.toJson
  | outcome => TurnStatus.toJson
  | message => OutgoingMessage.toJson
  | activity => Activity.toJson

def decoder : (kind : Exchanged) → Decoder kind.Carrier
  | snapshot => Snapshot.decoder
  | session => Session.decoder
  | options => LaunchOptions.decoder
  | result => DialogResult.decoder
  | location => Location.decoder
  | outcome => TurnStatus.decoder
  | message => OutgoingMessage.decoder
  | activity => Activity.decoder

/-- Things whose line numbers are words of 64 bits, whose tables are in order, whose numbers are
integers, and whose optional value is not null. -/
def Exact : (kind : Exchanged) → kind.Carrier → Prop
  | snapshot => Snapshot.Exact
  | session => Session.Exact
  | options => LaunchOptions.Exact
  | result => DialogResult.Exact
  | location => Location.Exact
  | outcome => fun _ => True
  | message => OutgoingMessage.Exact
  | activity => Activity.Exact

/-- Reading what has been written. -/
theorem reads (kind : Exchanged) (x : kind.Carrier) (h : kind.Exact x) :
    kind.decoder.Reads (kind.toJson x) x := by
  cases kind with
  | snapshot => exact Snapshot.reads h
  | session => exact Session.reads h
  | options => exact LaunchOptions.reads h
  | result => exact DialogResult.reads h
  | location => exact Location.reads h
  | outcome => exact TurnStatus.reads x
  | message => exact OutgoingMessage.reads h
  | activity => exact Activity.reads h

/-- Writing what has been read. -/
theorem yields (kind : Exchanged) : kind.decoder.Yields kind.toJson kind.Exact 6 := by
  -- a snapshot has the most levels of its own, and the others need no more than it does
  have hmono {α : Type} {d : Decoder α} {toJson : α → Json} {Exact : α → Prop} {least : ℕ}
      (h : d.Yields toJson Exact least) (hle : least ≤ 6) : d.Yields toJson Exact 6 :=
    fun _ _ _ hx => ⟨fun hleast => (h hx).1 (hle.trans hleast), (h hx).2⟩
  cases kind with
  | snapshot => exact Snapshot.yields
  | session => exact hmono Session.yields (by decide)
  | options => exact hmono LaunchOptions.yields (by decide)
  | result => exact hmono DialogResult.yields (by decide)
  | location => exact hmono Location.yields (by decide)
  | outcome => exact hmono TurnStatus.yields (by decide)
  | message => exact hmono OutgoingMessage.yields (by decide)
  | activity => exact hmono Activity.yields (by decide)

/-- **Decoding undoes encoding.**  A thing whose numbers are integers and whose value is not null
reads back from its text just when its containers nest no deeper than they may; and whatever any
text is decoded as, if its numbers are integers, is read back from its own text. -/
theorem decoding_undoes_encoding (kind : Exchanged) (x : kind.Carrier) :
    (kind.Exact x → kind.decoder.text? (kind.toJson x).render =
      if (kind.toJson x).depth ≤ Decoder.depthLimit then some x else none) ∧
    ∀ text, kind.decoder.text? text = some x → (kind.toJson x).Integral →
      kind.decoder.text? (kind.toJson x).render = some x :=
  ⟨fun h => (kind.reads x h).text?_render,
    fun _ htext hintegral => kind.yields.text?_render (by decide) kind.reads htext hintegral⟩

/-- A message with an empty list of attachments and one button. -/
def offer : OutgoingMessage where
  type := messageType
  text := "Ann said: \"tea\"?\n"
  value := some (.object [("cups", .ofInt (-2)), ("with", .array [.null, .bool true])])
  attachments := some []
  suggestedActions := [⟨"imBack", .string "Tea", .string "tea", .null, .string ""⟩]

theorem offer_exact : offer.Exact where
  value v hv := by
    obtain rfl := Option.some.inj hv
    have hsorted : Keyed.Sorted [("cups", Json.ofInt (-2)), ("with", .array [.null, .bool true])] :=
      List.pairwise_pair.2 (by decide)
    exact ⟨⟨⟨hsorted, trivial, ⟨trivial, trivial, trivial⟩, trivial⟩,
      ⟨⟨by decide, by decide⟩, ⟨trivial, trivial, trivial⟩, trivial⟩⟩, Json.noConfusion⟩
  attachments items hitems := by
    obtain rfl := Option.some.inj hitems
    exact fun v hv => by cases hv
  suggestedActions a ha := by
    obtain rfl := List.mem_singleton.1 ha
    exact ⟨Json.exact_string _, Json.exact_string _, ⟨trivial, trivial⟩, Json.exact_string _⟩
  channelData := Json.exact_object_nil

/-- A message that is written and read, and a place that is read from a text of another form. -/
theorem decoding_undoes_encoding_offer :
    (offer.Exact ∧ OutgoingMessage.decoder.text? offer.toJson.render = some offer) ∧
      ∃ text, Location.decoder.text? text = some ⟨"ask", 7⟩ ∧
        text ≠ (Location.toJson ⟨"ask", 7⟩).render ∧
        Location.decoder.text? (Location.toJson ⟨"ask", 7⟩).render = some ⟨"ask", 7⟩ := by
  have hdepth : offer.toJson.depth ≤ Decoder.depthLimit := by decide
  have hread := (decoding_undoes_encoding .message offer).1 offer_exact
  have htext : Location.decoder.text?
      " \x7b\"index\":7, \"note\":[1.5],\n\"thread\":\"\\u0061sk\"\x7d" = some ⟨"ask", 7⟩ := by
    decide +kernel
  exact ⟨⟨offer_exact, hread.trans (if_pos hdepth)⟩, _, htext, by decide +kernel,
    (decoding_undoes_encoding .location ⟨"ask", 7⟩).2 _ htext
      ⟨trivial, ⟨by decide, by decide⟩, trivial⟩⟩

end Exchanged

end Parley

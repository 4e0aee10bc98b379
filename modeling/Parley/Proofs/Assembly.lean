import Parley.Proofs.Choice
import Parley.Proofs.Recital
import Parley.Proofs.Template.Value

/-!
# What messages are assembled from

A text is chosen and the other parts are resolved, and then the message is put together without
looking at the variables again.  `Message.Yields` says what is found in the first step, and
`Message.assembled` is the second one; `assemble_eq_ok_iff` says that these two are all there is to
assembling a message.

**Messages are assembled consistently** (`Message.compose_is_consistent`): the buttons that are
offered are the quick replies that the channel is told of, the data that a line gives for the
channel is sent as it is given, nothing is added to it but the parts of the message, and a random
choice is made only if there are texts to choose from.
-/

namespace Parley

/-! ### Buttons -/

/-- A button offers a quick reply: it shows the title, and stands for the payload. -/
structure CardAction.Offers (a : CardAction) (reply : Json) : Prop where
  title : a.title = Json.orNull (reply.member? "title")
  displayText : a.displayText = Json.orNull (reply.member? "title")
  text : a.text = Json.orNull (reply.member? "payload")
  value : a.value = Json.orNull (reply.member? "payload")

/-- There is one button for each quick reply, and both are filled in alike. -/
theorem Message.offers_fill_suggestedActions (vars : Vars) (items : List Json) :
    List.Forall₂ CardAction.Offers ((suggestedActions (.array items)).map (·.fill vars))
      (items.map (Template.renderValue vars)) := by
  have hmember := Template.orNull_member?_renderValue vars
  show List.Forall₂ _ ((items.map _).map _) _
  induction items with
  | nil => exact .nil
  | cons reply rest ih =>
    exact .cons ⟨(hmember reply "title").symm, (hmember reply "title").symm,
      (hmember reply "payload").symm, (hmember reply "payload").symm⟩ ih

/-! ### Assembling in two steps -/

theorem run_ofExcept {α : Type} (x : Except DialogError α) (rng : UInt32) :
    (ofExcept x : ComposeM α).run.run rng = (x, rng) := by
  cases x <;> rfl

theorem exists_of_compose_bind {α β : Type} {x : ComposeM α} {f : α → ComposeM β} {b : β}
    {rng rng' : UInt32} (h : (x >>= f).run.run rng = (.ok b, rng')) :
    ∃ a rng₁, x.run.run rng = (.ok a, rng₁) ∧ (f a).run.run rng₁ = (.ok b, rng') := by
  rcases hx : x.run.run rng with ⟨e | a, rng₁⟩
  · rw [ExceptT.run_bind, StateT.run_bind, hx] at h
    cases h
  · rw [compose_bind_of_ok hx] at h
    exact ⟨a, rng₁, rfl, h⟩

namespace Message

/-- What a message is put together from: its text, and its other parts as far as it has them. -/
structure Ingredients where
  text : String
  quickReplies : Option Json
  attachment : Option Json
  attachments : Option Json
  blocks : Option Json

/-- These are what the message is put together from, when the state of random choice changes like
this. -/
structure Yields (m : Message) (vars : Vars) (rng : UInt32) (i : Ingredients) (rng' : UInt32) :
    Prop where
  text : (m.chooseText vars).run.run rng = (.ok i.text, rng')
  quickReplies : m.quickReplies.mapM (·.resolve vars) = .ok i.quickReplies
  attachment : m.attachment.mapM (·.resolve vars) = .ok i.attachment
  attachments : m.attachments.mapM (·.resolve vars) = .ok i.attachments
  blocks : m.blocks.mapM (·.resolve vars) = .ok i.blocks

/-- The parts that are sent as data for the channel. -/
def gathered (m : Message) (i : Ingredients) : Vars :=
  let data := withEntry (withEntry [] "quick_replies" i.quickReplies) "attachment" i.attachment
  let data :=
    if m.attachments.any Content.isComputed then withEntry data "attachments" i.attachments
    else data
  withEntry data "blocks" i.blocks

/-- The message that is put together, with its templates not yet filled in. -/
def assembled (m : Message) (i : Ingredients) : OutgoingMessage where
  type := m.type.getD messageType
  text := i.text
  value := m.typedValue
  attachmentLayout := m.attachmentLayout
  attachments := i.attachments.map attachmentList
  suggestedActions := (i.quickReplies.map suggestedActions).getD []
  channelData := Keyed.insertAll (m.gathered i) m.channelData

variable {m : Message} {vars : Vars} {rng rng' : UInt32} {i : Ingredients}

theorem run_resolve (part : Option Content) (vars : Vars) (rng : UInt32) :
    (resolve part vars).run.run rng = (part.mapM (·.resolve vars), rng) := by
  cases part with
  | none => rfl
  | some content =>
    unfold resolve
    rw [Option.mapM_some, Option.mapM_some]
    cases content.resolve vars <;> rfl

theorem exists_of_resolve_bind {α : Type} {part : Option Content} {f : Option Json → ComposeM α}
    {b : α} (h : (resolve part vars >>= f).run.run rng = (.ok b, rng')) :
    ∃ v, part.mapM (·.resolve vars) = .ok v ∧ (f v).run.run rng = (.ok b, rng') := by
  obtain ⟨v, rng₁, hv, h⟩ := exists_of_compose_bind h
  rw [run_resolve] at hv
  obtain ⟨hfound, rfl⟩ := Prod.mk.inj hv
  exact ⟨v, hfound, h⟩

theorem resolve_bind_of_ok {α : Type} {part : Option Content} {v : Option Json}
    (h : part.mapM (·.resolve vars) = .ok v) (f : Option Json → ComposeM α) :
    (resolve part vars >>= f).run.run rng = (f v).run.run rng :=
  compose_bind_of_ok (by rw [run_resolve, h]) f

/-- **A message is assembled in two steps**: what it consists of is found, and put together. -/
theorem assemble_eq_ok_iff {made : OutgoingMessage} :
    (m.assemble vars).run.run rng = (.ok made, rng') ↔
      ∃ i, m.Yields vars rng i rng' ∧ made = m.assembled i := by
  constructor
  · intro h
    obtain ⟨text, rng₁, htext, h⟩ := exists_of_compose_bind h
    obtain ⟨replies, hreplies, h⟩ := exists_of_resolve_bind h
    obtain ⟨attachment, hattachment, h⟩ := exists_of_resolve_bind h
    obtain ⟨attachments, hattachments, h⟩ := exists_of_resolve_bind h
    obtain ⟨blocks, hblocks, h⟩ := exists_of_resolve_bind h
    cases h
    exact ⟨⟨text, replies, attachment, attachments, blocks⟩,
      ⟨htext, hreplies, hattachment, hattachments, hblocks⟩, rfl⟩
  · rintro ⟨i, hi, rfl⟩
    refine (compose_bind_of_ok hi.text _).trans ?_
    refine (resolve_bind_of_ok hi.quickReplies _).trans ?_
    refine (resolve_bind_of_ok hi.attachment _).trans ?_
    refine (resolve_bind_of_ok hi.attachments _).trans ?_
    exact (resolve_bind_of_ok hi.blocks _).trans rfl

theorem compose_of_assemble {unrendered : OutgoingMessage}
    (h : (m.assemble vars).run.run rng = (.ok unrendered, rng')) :
    (m.compose vars).run.run rng = (.ok (unrendered.fill vars), rng') :=
  (compose_bind_of_ok h _).trans rfl

theorem exists_of_compose_eq_ok {made : OutgoingMessage}
    (h : (m.compose vars).run.run rng = (.ok made, rng')) :
    ∃ i, m.Yields vars rng i rng' ∧ made = (m.assembled i).fill vars := by
  obtain ⟨unrendered, rng₁, hassemble, h⟩ := exists_of_compose_bind h
  cases h
  obtain ⟨i, hi, rfl⟩ := assemble_eq_ok_iff.1 hassemble
  exact ⟨i, hi, rfl⟩

/-! ### Data for the channel -/

/-- The parts of a message that may be sent as data for the channel. -/
def partKeys : List String := ["quick_replies", "attachment", "attachments", "blocks"]

theorem forall_key_withEntry {P : String → Prop} {data : Vars} (key : String) (v : Option Json)
    (h : ∀ e ∈ data, P e.1) (hkey : P key) : ∀ e ∈ withEntry data key v, P e.1 := by
  intro e he
  cases v with
  | none => exact h e he
  | some v =>
    rcases Keyed.mem_insert he with rfl | he
    · exact hkey
    · exact h e he

theorem get?_withEntry_self (data : Vars) (key : String) (v : Option Json) :
    Keyed.get? (withEntry data key v) key = v.or (Keyed.get? data key) := by
  cases v with
  | none => rfl
  | some v => exact Keyed.get?_insert_self data key v

theorem get?_withEntry_of_ne (data : Vars) {key other : String} (v : Option Json)
    (h : other ≠ key) : Keyed.get? (withEntry data key v) other = Keyed.get? data other := by
  cases v with
  | none => rfl
  | some v => exact Keyed.get?_insert_of_ne data v h

theorem key_mem_of_mem_gathered : ∀ e ∈ m.gathered i, e.1 ∈ partKeys := by
  have hnone : ∀ e ∈ ([] : Vars), e.1 ∈ partKeys := fun e he => absurd he List.not_mem_nil
  have hfirst := forall_key_withEntry "attachment" i.attachment
    (forall_key_withEntry "quick_replies" i.quickReplies hnone (by decide)) (by decide)
  refine forall_key_withEntry "blocks" i.blocks ?_ (by decide)
  split
  · exact forall_key_withEntry "attachments" i.attachments hfirst (by decide)
  · exact hfirst

theorem get?_gathered_quickReplies :
    Keyed.get? (m.gathered i) "quick_replies" = i.quickReplies := by
  have hfirst : Keyed.get? (withEntry (withEntry [] "quick_replies" i.quickReplies) "attachment"
      i.attachment) "quick_replies" = i.quickReplies := by
    rw [get?_withEntry_of_ne _ _ (by decide), get?_withEntry_self, Keyed.get?_nil, Option.or_none]
  rw [gathered, get?_withEntry_of_ne _ _ (by decide)]
  split
  · rw [get?_withEntry_of_ne _ _ (by decide), hfirst]
  · exact hfirst

theorem get?_channelData_fill (hdata : m.channelData.Sorted) (key : String) :
    Keyed.get? ((m.assembled i).fill vars).channelData key =
      ((Keyed.get? m.channelData key).or (Keyed.get? (m.gathered i) key)).map
        (Template.renderValue vars) := by
  show Keyed.get? (Template.renderMembers vars (Keyed.insertAll (m.gathered i) m.channelData)) key =
    _
  rw [Template.get?_renderMembers, Keyed.get?_insertAll hdata]

theorem key_mem_of_mem_channelData_fill {e : String × Json}
    (h : e ∈ ((m.assembled i).fill vars).channelData) :
    e.1 ∈ Keyed.keys m.channelData ∨ e.1 ∈ partKeys := by
  have hfilled : e ∈ Template.renderMembers vars (Keyed.insertAll (m.gathered i) m.channelData) := h
  rw [Template.renderMembers_eq_map] at hfilled
  obtain ⟨unfilled, hunfilled, rfl⟩ := List.mem_map.1 hfilled
  rcases Keyed.mem_insertAll hunfilled with hgiven | hpart
  · exact .inl (List.mem_map.2 ⟨unfilled, hgiven, rfl⟩)
  · exact .inr (key_mem_of_mem_gathered unfilled hpart)

/-! ### Random choices -/

/-- Picking leaves the state that comes with the index, whatever is picked and how. -/
theorem run_pick (pick : UInt32 → ℕ × UInt32) (texts : List String) (rng : UInt32) :
    (do
      let (index, state) := pick (← get)
      set state
      return texts[index]?.getD "" : ComposeM String).run.run rng =
      (.ok (texts[(pick rng).1]?.getD ""), (pick rng).2) := rfl

theorem ne_iff_of_chooseText {text : String}
    (h : (m.chooseText vars).run.run rng = (.ok text, rng')) :
    rng' ≠ rng ↔ ∃ first rest, m.text = some (.variants (first :: rest)) := by
  have hsame (hrng : rng' = rng)
      (hnone : ¬ ∃ first rest, m.text = some (.variants (first :: rest))) :
      rng' ≠ rng ↔ ∃ first rest, m.text = some (.variants (first :: rest)) :=
    iff_of_false (fun hne => hne hrng) hnone
  unfold chooseText at h
  cases htext : m.text with
  | none =>
    rw [htext] at h hsame
    cases h
    exact hsame rfl (by simp)
  | some chosen =>
    rw [htext] at h hsame
    cases chosen with
    | literal text =>
      cases h
      exact hsame rfl (by simp)
    | variants texts =>
      cases texts with
      | nil =>
        cases h
        exact hsame rfl (by simp)
      | cons first rest =>
        have hpicked := run_pick (Random.pickIndex · (first :: rest).length) (first :: rest) rng
        obtain ⟨-, rfl⟩ := Prod.mk.inj (hpicked.symm.trans h)
        exact iff_of_true (Random.pickIndex_ne_state (Nat.succ_pos _) rng) ⟨first, rest, rfl⟩
    | computed compute =>
      dsimp only at h
      rw [run_ofExcept] at h
      obtain ⟨-, rfl⟩ := Prod.mk.inj h
      exact hsame rfl (by simp)

/-! ### Assembling as a whole -/

/-- **Messages are assembled consistently.**  If the quick replies are a list and the line gives
none for the channel itself, the buttons offer just what the channel is told of.  What the line
gives for the channel is sent with its templates filled in, and under other keys there are only
parts of the message.  A random choice is made just if there are texts to choose from. -/
theorem compose_is_consistent {made : OutgoingMessage}
    (hmade : (m.compose vars).run.run rng = (.ok made, rng'))
    (hdata : m.channelData.Sorted) :
    (∀ replies items, m.quickReplies = some replies →
      replies.resolve vars = .ok (.array items) →
      Keyed.get? m.channelData "quick_replies" = none →
      Keyed.get? made.channelData "quick_replies" =
          some (.array (items.map (Template.renderValue vars))) ∧
        List.Forall₂ CardAction.Offers made.suggestedActions
          (items.map (Template.renderValue vars))) ∧
      (∀ key v, Keyed.get? m.channelData key = some v →
        Keyed.get? made.channelData key = some (Template.renderValue vars v)) ∧
      (∀ e ∈ made.channelData, e.1 ∉ Keyed.keys m.channelData → e.1 ∈ partKeys) ∧
      (rng' ≠ rng ↔ ∃ first rest, m.text = some (.variants (first :: rest))) := by
  obtain ⟨i, hi, rfl⟩ := exists_of_compose_eq_ok hmade
  refine ⟨fun replies items hreplies hitems hnone => ?_, fun key v hv => ?_, fun e he hkey => ?_,
    ne_iff_of_chooseText hi.text⟩
  · have hfound : i.quickReplies = some (.array items) := by
      have hresolved := hi.quickReplies
      rw [hreplies, Option.mapM_some, hitems] at hresolved
      exact (Except.ok.inj hresolved).symm
    constructor
    · rw [get?_channelData_fill hdata, hnone, get?_gathered_quickReplies, hfound,
        ← Template.renderItems_eq_map]
      show some (Template.renderValue vars (.array items)) = _
      rw [Template.renderValue]
    · show List.Forall₂ _ (((i.quickReplies.map suggestedActions).getD []).map _) _
      rw [hfound]
      exact offers_fill_suggestedActions vars items
  · rw [get?_channelData_fill hdata, hv]
    rfl
  · exact (key_mem_of_mem_channelData_fill he).resolve_left hkey

/-! ### A menu -/

/-- Quick replies of which one is no object, and one has no payload. -/
def menuReplies : List Json :=
  [.object [("payload", .string "tea"), ("title", .string "\x7b\x7bvars.leaf\x7d\x7d tea")],
    .string "nothing", .object [("title", .string "Water")]]

/-- A message that offers them.  Its blocks are not what the channel is given as blocks. -/
def menu : Message where
  text := some (.variants ["What would you like?", "What will it be?"])
  quickReplies := some (.literal (.array menuReplies))
  blocks := some (.literal (.string "shelf"))
  channelData := [("blocks", .string "counter")]

/-- The menu offers what the channel is told of, on the counter. -/
theorem compose_is_consistent_menu :
    Keyed.Sorted menu.channelData ∧
      ∃ made rng', (menu.compose [("leaf", .string "Green")]).run.run 5 = (.ok made, rng') ∧
        Keyed.get? made.channelData "quick_replies" =
          some (.array (menuReplies.map (Template.renderValue [("leaf", .string "Green")]))) ∧
        List.Forall₂ CardAction.Offers made.suggestedActions
          (menuReplies.map (Template.renderValue [("leaf", .string "Green")])) ∧
        Keyed.get? made.channelData "blocks" =
          some (.string (Template.render "counter" [("leaf", .string "Green")])) ∧
        rng' ≠ 5 := by
  have hdata : Keyed.Sorted menu.channelData := List.pairwise_singleton _ _
  obtain ⟨made, rng', hmade⟩ := menu.composes rfl [("leaf", .string "Green")] 5
  obtain ⟨hreplies, hgiven, -, hchoice⟩ := compose_is_consistent hmade hdata
  obtain ⟨htold, hoffered⟩ := hreplies _ menuReplies rfl rfl rfl
  have hblocks := hgiven "blocks" (.string "counter") rfl
  rw [Template.renderValue] at hblocks
  exact ⟨hdata, made, rng', hmade, htold, hoffered, hblocks, hchoice.2 ⟨_, _, rfl⟩⟩

end Message

end Parley

import Parley.Proofs.Assembly

/-!
# What counts as content

A line is skipped if its message is without content, which is told from the fields of the message.
What is sent is told from the fields too, but elsewhere: by putting the message together.  A message
that would show nothing is bare (`OutgoingMessage.IsBare`), and `Message.isBare_assembled_iff` says
which messages come to that.

**The two agree as far as they are meant to** (`Message.hasContent_iff_shown`).  A message that is
written out, and has quick replies only beside other content, is without content just if it comes to
a bare message and says nothing of how it is to be sent: it has no type of its own, and no list of
texts.  A type counts as content even if it is the usual one, and so does a list of texts even if it
is empty or an empty text is chosen from it (`Message.hasContent_of_blank`).
-/

namespace Parley

open Stepping

/-- The message shows nothing: it has the usual type and an empty text, and nothing comes with
it. -/
structure OutgoingMessage.IsBare (m : OutgoingMessage) : Prop where
  type : m.type = messageType
  text : m.text = ""
  value : m.value = none
  attachments : m.attachments = none
  suggestedActions : m.suggestedActions = []
  channelData : m.channelData = []

namespace Message

variable {m : Message} {vars : Vars} {rng rng' : UInt32} {i : Ingredients}

/-! ### Messages that come to nothing -/

theorem withEntry_eq_nil_iff {data : Vars} {key : String} {v : Option Json} :
    withEntry data key v = [] ↔ data = [] ∧ v = none := by
  cases v with
  | none => exact (and_iff_left rfl).symm
  | some v => exact iff_of_false (Keyed.insert_ne_nil data key v) fun h => nomatch h.2

/-- A message is bare if it has the usual type, an empty text and no part. -/
theorem isBare_assembled_iff :
    (m.assembled i).IsBare ↔
      m.type.getD messageType = messageType ∧ i.text = "" ∧ i.quickReplies = none ∧
        i.attachment = none ∧ i.attachments = none ∧ i.blocks = none ∧ m.channelData = [] := by
  constructor
  · intro h
    obtain ⟨hdata, hgathered⟩ := Keyed.insertAll_eq_nil_iff.1 h.channelData
    have hattachments : i.attachments = none := Option.map_eq_none_iff.1 h.attachments
    obtain ⟨hrest, hblocks⟩ := withEntry_eq_nil_iff.1 hgathered
    rw [hattachments, withEntry, ite_self] at hrest
    obtain ⟨hfirst, hattachment⟩ := withEntry_eq_nil_iff.1 hrest
    obtain ⟨-, hreplies⟩ := withEntry_eq_nil_iff.1 hfirst
    exact ⟨h.type, h.text, hreplies, hattachment, hattachments, hblocks, hdata⟩
  · rintro ⟨htype, htext, hreplies, hattachment, hattachments, hblocks, hdata⟩
    have hdelay : m.type ≠ some delayType := by
      intro hdelay
      rw [hdelay] at htype
      exact absurd htype (by decide)
    refine ⟨htype, htext, if_neg hdelay, ?_, ?_, ?_⟩
    · rw [assembled, hattachments, Option.map_none]
    · rw [assembled, hreplies, Option.map_none, Option.getD_none]
    · refine Keyed.insertAll_eq_nil_iff.2 ⟨hdata, ?_⟩
      rw [gathered, hreplies, hattachment, hattachments, hblocks]
      simp only [withEntry, ite_self]

/-! ### Messages that are written out -/

theorem eq_none_iff_of_mapM {part : Option Content} {v : Option Json}
    (h : part.mapM (·.resolve vars) = .ok v) : v = none ↔ part = none := by
  cases part with
  | none =>
    cases h
    exact iff_of_true rfl rfl
  | some content =>
    rw [Option.mapM_some] at h
    refine iff_of_false ?_ (by simp)
    rintro rfl
    cases hcontent : content.resolve vars with
    | error e =>
      rw [hcontent] at h
      cases h
    | ok found =>
      rw [hcontent] at h
      cases h

theorem isPresent_eq_false_iff {text : String} (hliteral : m.text.any Text.isComputed = false)
    (hvariants : ∀ texts, m.text ≠ some (.variants texts))
    (h : (m.chooseText vars).run.run rng = (.ok text, rng')) :
    m.text.any Text.isPresent = false ↔ text = "" := by
  unfold chooseText at h
  cases htext : m.text with
  | none =>
    rw [htext] at h
    cases h
    exact iff_of_true rfl rfl
  | some chosen =>
    rw [htext] at h hliteral
    cases chosen with
    | literal written =>
      cases h
      simp [Text.isPresent]
    | variants texts => exact absurd htext (hvariants texts)
    | computed compute => cases hliteral

theorem hasContent_eq_false_iff :
    m.hasContent = false ↔ m.type = none ∧ m.text.any Text.isPresent = false ∧
      m.attachments = none ∧ m.attachment = none ∧ m.blocks = none ∧ m.channelData = [] := by
  simp [hasContent, and_assoc]

/-- **A message without content comes to nothing**, and a message that comes to nothing is without
content unless it says how it is to be sent. -/
theorem Yields.hasContent_eq_false_iff_isBare (hi : m.Yields vars rng i rng')
    (hliteral : m.isLiteral = true)
    (hbeside : m.quickReplies.isSome → m.hasContent = true) :
    m.hasContent = false ↔ (m.assembled i).IsBare ∧ m.type = none ∧
      ∀ texts, m.text ≠ some (.variants texts) := by
  have hcomputed : m.text.any Text.isComputed = false := by
    simp only [isLiteral, Bool.not_eq_true', Bool.or_eq_false_iff] at hliteral
    exact hliteral.1.1.1.1
  rw [isBare_assembled_iff, eq_none_iff_of_mapM hi.quickReplies,
    eq_none_iff_of_mapM hi.attachment, eq_none_iff_of_mapM hi.attachments,
    eq_none_iff_of_mapM hi.blocks]
  constructor
  · intro hnone
    have hreplies : m.quickReplies = none := by
      refine Option.not_isSome_iff_eq_none.1 fun hsome => ?_
      rw [hbeside hsome] at hnone
      cases hnone
    obtain ⟨htype, htext, hattachments, hattachment, hblocks, hdata⟩ :=
      hasContent_eq_false_iff.1 hnone
    -- a list of texts would count as content
    have hvariants (texts : List String) : m.text ≠ some (.variants texts) := by
      intro hsome
      rw [hsome] at htext
      cases htext
    have hempty := (isPresent_eq_false_iff hcomputed hvariants hi.text).1 htext
    exact ⟨⟨by rw [htype, Option.getD_none], hempty, hreplies, hattachment, hattachments, hblocks,
      hdata⟩, htype, hvariants⟩
  · rintro ⟨⟨-, hempty, -, hattachment, hattachments, hblocks, hdata⟩, htype, hvariants⟩
    have htext := (isPresent_eq_false_iff hcomputed hvariants hi.text).2 hempty
    exact hasContent_eq_false_iff.2 ⟨htype, htext, hattachments, hattachment, hblocks, hdata⟩

/-! ### What is skipped, and what is sent -/

/-- **What counts as content is what would be shown.**  A message that is written out, and has quick
replies only beside other content, comes to something; it is without content just if that is bare
and the message has no type and no list of texts.  Only then its line sends nothing: otherwise what
the message comes to is filled in and sent in its parts. -/
theorem hasContent_iff_shown (hliteral : m.isLiteral = true)
    (hbeside : m.quickReplies.isSome → m.hasContent = true) (vars : Vars) (rng : UInt32) :
    ∃ unrendered rng', (m.assemble vars).run.run rng = (.ok unrendered, rng') ∧
      (m.hasContent = false ↔
        unrendered.IsBare ∧ m.type = none ∧ ∀ texts, m.text ≠ some (.variants texts)) ∧
      ∀ (d : Dialog) (rounds budget : ℕ) (cursor : Location) (action : Option Action) (s : Session)
        (st : Stack), s.values = vars → s.rngState = rng →
        ∃ log, d.next? (Stack.answer rounds)
            ⟨.performing budget cursor (.message m action), s, st⟩ =
          some ⟨.behindLine budget cursor s action,
            { s with rngState := if m.hasContent then rng' else rng },
            st.having (if m.hasContent then (unrendered.fill vars).parts else []) log⟩ := by
  obtain ⟨_, rng', hmade⟩ := m.composes hliteral vars rng
  obtain ⟨i, hi, rfl⟩ := exists_of_compose_eq_ok hmade
  refine ⟨m.assembled i, rng', assemble_eq_ok_iff.2 ⟨i, hi, rfl⟩,
    hi.hasContent_eq_false_iff_isBare hliteral hbeside, ?_⟩
  rintro d rounds budget cursor action s st rfl rfl
  have hsaid : Recites s.values s.rngState [m]
      (if m.hasContent then ((m.assembled i).fill s.values).parts else [])
      (if m.hasContent then rng' else s.rngState) := by
    cases hcontent : m.hasContent with
    | false => exact .silent hcontent (.nil _)
    | true =>
      have hparts := Recites.said hcontent hmade (.nil rng')
      rw [List.append_nil] at hparts
      exact hparts
  exact Dialog.exists_next?_message hsaid action

/-- An empty text that is carried with a layout. -/
def unsaid : Message := { text := some (.literal ""), attachmentLayout := some "carousel" }

/-- A text with quick replies beside it. -/
def asked : Message :=
  { text := some (.literal "Tea?"), quickReplies := some (.literal (.array menuReplies)) }

/-- The one comes to a bare message and is without content, the other is neither. -/
theorem hasContent_iff_shown_unsaid_asked :
    unsaid.isLiteral = true ∧ asked.isLiteral = true ∧
      (∃ unrendered rng', (unsaid.assemble []).run.run 5 = (.ok unrendered, rng') ∧
        unsaid.hasContent = false ∧ unrendered.IsBare) ∧
      ∃ unrendered rng', (asked.assemble []).run.run 5 = (.ok unrendered, rng') ∧
        asked.hasContent = true ∧ ¬ unrendered.IsBare := by
  obtain ⟨bare, rng₁, hbare, hunsaid, -⟩ := hasContent_iff_shown (m := unsaid) rfl nofun [] 5
  obtain ⟨shown, rng₂, hshown, hasked, -⟩ :=
    hasContent_iff_shown (m := asked) rfl (fun _ => rfl) [] 5
  refine ⟨rfl, rfl, ⟨bare, rng₁, hbare, rfl, (hunsaid.1 rfl).1⟩, shown, rng₂, hshown, rfl, ?_⟩
  intro hnothing
  have hnone := hasked.2 ⟨hnothing, rfl, fun _ h => nomatch h⟩
  cases hnone

/-- **An empty text that is said counts as content**: it is a list of one text, and the message that
is sent for it is bare. -/
theorem hasContent_of_blank :
    (ofText "").isLiteral = true ∧ (ofText "").hasContent = true ∧
      ∃ unrendered rng', ((ofText "").assemble []).run.run 5 = (.ok unrendered, rng') ∧
        unrendered.IsBare ∧ ¬ ((ofText "").hasContent = false ↔ unrendered.IsBare) ∧
        Recites [] 5 [ofText ""] (unrendered.fill []).parts rng' := by
  have hempty (k : ℕ) : [""][k]?.getD "" = "" := by cases k <;> rfl
  let i : Ingredients := ⟨"", none, none, none, none⟩
  have hi : (ofText "").Yields [] 5 i (Random.pickIndex 5 1).2 := by
    refine ⟨(run_pick (Random.pickIndex · 1) [""] 5).trans ?_, rfl, rfl, rfl, rfl⟩
    rw [hempty]
  have hbare : ((ofText "").assembled i).IsBare :=
    isBare_assembled_iff.2 ⟨rfl, rfl, rfl, rfl, rfl, rfl, rfl⟩
  have hassemble := assemble_eq_ok_iff.2 ⟨i, hi, rfl⟩
  have hsaid := Recites.said (m := ofText "") rfl (compose_of_assemble hassemble) (.nil _)
  rw [List.append_nil] at hsaid
  have hdiffer : ¬ ((ofText "").hasContent = false ↔ ((ofText "").assembled i).IsBare) := by
    intro hagree
    cases hagree.2 hbare
  exact ⟨rfl, rfl, _, _, hassemble, hbare, hdiffer, hsaid⟩

end Message

end Parley

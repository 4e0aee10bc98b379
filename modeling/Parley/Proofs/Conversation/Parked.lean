import Parley.Proofs.Conversation.Lineage

/-!
# Where conversations wait

Between the turns of a conversation every session stands on a line of its dialog
(`Stack.Parked`): the one on top on a question, or where it waits, and all others where they have
begun a dialog.  Moreover each of these stands just where it was left in the visit in which the
session above it was begun, or one whose place that session took
(`Stack.Conversation.parked`).
-/

namespace Parley

theorem exists_rel_of_mem_tail {α : Type} {R : α → α → Prop} {l : List α} (h : l.IsChain R) {b : α}
    (hb : b ∈ l.tail) : ∃ a, R a b := by
  induction h with
  | nil | singleton => cases hb
  | @cons_cons a b' l hr _ ih =>
    rcases List.mem_cons.1 hb with rfl | hb
    · exact ⟨a, hr⟩
    · exact ih hb

namespace Dialog

variable {d : Dialog} {s : Session}

theorem BeginsAt.lt_length {lines : List Line} {index : ℕ} {execute : Execute}
    (h : BeginsAt lines index execute) : index < lines.length := by
  cases h with
  | child _ h | message _ h | action h | handler _ _ h =>
    exact (List.getElem?_eq_some_iff.1 h).1

theorem AwaitsAnswer.exists_lt_length (h : d.AwaitsAnswer s) :
    ∃ lines, d.script.thread? s.thread = some lines ∧ s.stepIndex < lines.length := by
  obtain ⟨lines, line, hlines, hline, -⟩ := h.place
  exact ⟨lines, hlines, (List.getElem?_eq_some_iff.1 hline).1⟩

theorem AwaitsChild.exists_lt_length {execute : Execute} (h : d.AwaitsChild s execute) :
    ∃ lines, d.script.thread? s.thread = some lines ∧ s.stepIndex < lines.length := by
  obtain ⟨lines, hlines, hbegins⟩ := h.place
  exact ⟨lines, hlines, hbegins.lt_length⟩

end Dialog

namespace Stack

/-- All sessions stand where they can go on: the one on top when an answer comes in, the others when
the dialog that they have begun ends. -/
structure Parked (st : Stack) : Prop where
  standing : ∀ f ∈ st.frames, ∃ d lines, st.dialogs.find f.dialog = .ok d ∧
    f.session.status = .running ∧ d.script.thread? f.session.thread = some lines ∧
    f.session.stepIndex < lines.length
  top : ∀ f, st.top? = some f → ∃ d, st.dialogs.find f.dialog = .ok d ∧ d.AwaitsAnswer f.session
  below : ∀ f ∈ st.frames.tail, ∃ d execute, st.dialogs.find f.dialog = .ok d ∧
    d.AwaitsChild f.session execute

variable {st : Stack}

theorem parked_of_settled {earlier : List Visit} (h : Settled earlier st) : st.Parked := by
  have hbelow : ∀ f ∈ st.frames.tail, ∃ d execute, st.dialogs.find f.dialog = .ok d ∧
      d.AwaitsChild f.session execute := by
    intro f hf
    obtain ⟨_, w, execute, hbegun⟩ := exists_rel_of_mem_tail h.chain hf
    obtain ⟨d, hd, hawaits⟩ := hbegun.awaits
    exact ⟨d, execute, hd, hawaits⟩
  refine ⟨fun f hf => ?_, h.top, hbelow⟩
  cases hframes : st.frames with
  | nil =>
    rw [hframes] at hf
    cases hf
  | cons g rest =>
    rw [hframes] at hf
    rcases List.mem_cons.1 hf with rfl | hf
    · obtain ⟨d, hd, hawaits⟩ := h.top f (top?_eq_some_iff.2 ⟨rest, hframes⟩)
      obtain ⟨lines, hlines, hlt⟩ := hawaits.exists_lt_length
      exact ⟨d, lines, hd, hawaits.status, hlines, hlt⟩
    · obtain ⟨d, execute, hd, hawaits⟩ := hbelow f (by rw [hframes]; exact hf)
      obtain ⟨lines, hlines, hlt⟩ := hawaits.exists_lt_length
      exact ⟨d, lines, hd, hawaits.status, hlines, hlt⟩

/-- **Between the turns of a conversation all sessions are parked**, and each one below another is
where it was left in the visit in which the other one was begun. -/
theorem Conversation.parked {entries : List Entry} (h : st.Conversation entries)
    (hloaded : st.Loaded) :
    st.Parked ∧ ∃ visits : List Visit, entries = visits.map Visit.entry ∧
      (∀ v ∈ visits, v.Happens st.dialogs) ∧
      st.frames.IsChain (Descends st.dialogs visits.reverse) := by
  obtain ⟨visits, hentries, hsettled, hlaws⟩ := h.exists_visits hloaded
  refine ⟨parked_of_settled hsettled, visits, hentries, fun v hv => ?_, hsettled.chain⟩
  obtain ⟨pre, post, hsplit⟩ := List.append_of_mem hv
  exact (hlaws pre v post hsplit).1.happens

/-! ### A conversation -/

/-- The text of a dialog that asks for a name. -/
def formText : String :=
  "\x7b\"id\":\"form\",\"threads\":\x7b\"default\":[" ++
  "\x7b\"text\":\"Name?\",\"collect\":\x7b\"key\":\"name\"\x7d\x7d]\x7d\x7d"

/-- The text of a dialog that has the form filled in and then asks for more. -/
def deskText : String :=
  "\x7b\"id\":\"desk\",\"threads\":\x7b\"default\":[" ++
  "\x7b\"action\":\"beginDialog\",\"execute\":\x7b\"script\":\"form\"\x7d," ++
  "\"collect\":\x7b\x7d\x7d," ++
  "\x7b\"text\":\"More?\",\"collect\":\x7b\x7d\x7d]\x7d\x7d"

/-- The dialog of a text. -/
def readDialog (source : String) : Dialog :=
  (Dialog.load source { seed := some 7 }).toOption.getD (silent "unread")

theorem loaded_readDialog (source : String) (p : Dialog → Bool)
    (h : (Dialog.load source { seed := some 7 }).toOption.any p = true) :
    (readDialog source).Loaded ∧ p (readDialog source) = true := by
  unfold readDialog
  cases hd : Dialog.load source { seed := some 7 } with
  | error e =>
    rw [hd] at h
    cases h
  | ok d =>
    rw [hd] at h
    exact ⟨⟨source, _, hd⟩, h⟩

/-- An empty stack of the two dialogs. -/
def deskStack : Stack :=
  Stack.empty [("form", readDialog formText), ("desk", readDialog deskText)] fun _ => 0

theorem deskStack_loaded : deskStack.Loaded := by
  refine DialogSet.forall_of_find fun entry hentry => ?_
  rcases List.mem_pair.1 hentry with rfl | rfl
  · exact (loaded_readDialog formText (fun _ => true) (by decide +kernel)).1
  · exact (loaded_readDialog deskText (fun _ => true) (by decide +kernel)).1

/-- The stack on which the name is asked for. -/
def askingStack : Stack := deskStack.behind 3 (.start "desk" {})

theorem returns_asking : Returns (.start "desk" {}) deskStack (.ok (some .waiting)) askingStack ∧
    askingStack.outline = [("form", []), ("desk", [])] :=
  returns_behind (by decide +kernel)

theorem dialogs_askingStack : askingStack.dialogs = deskStack.dialogs := by
  have hc : (Call.start "desk" {}).IsTurn := trivial
  exact returns_asking.1.dialogs_eq

theorem askingStack_loaded : askingStack.Loaded :=
  fun id d hd => deskStack_loaded id d (dialogs_askingStack ▸ hd)

theorem exists_conversation_asking : ∃ entries, askingStack.Conversation entries := by
  obtain ⟨entries, henters⟩ := returns_asking.1.exists_enters
  exact ⟨entries, .start (.empty _ _) rfl returns_asking.1 henters⟩

theorem parked_asking :
    ∃ entries, askingStack.Conversation entries ∧ askingStack.Loaded ∧ askingStack.Parked ∧
      askingStack.outline = [("form", []), ("desk", [])] := by
  obtain ⟨entries, h⟩ := exists_conversation_asking
  exact ⟨entries, h, askingStack_loaded, (h.parked askingStack_loaded).1, returns_asking.2⟩

end Stack

end Parley

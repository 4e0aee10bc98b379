import Parley.Proofs.Index.Moments
import Parley.Proofs.Index.Reach
import Parley.Proofs.Persistence
import Parley.Proofs.Reading.Exchange

/-!
# Line numbers are words

The line numbers of a session are words of 64 bits (`Session.Words`).  They are when a session is
read from a text, as a decoder takes no other numbers (`Snapshot.grants`), and every run leaves them
so, wherever its session goes on: what a run reaches lies in a thread that is there, or no further
than where it went on (`Dialog.Leaves.words`).

All of this is for dialogs that a run finds its way in (`Dialog.Navigable`).
-/

namespace Parley

open Decoder (Fields)

/-! ### Sessions that are read -/

/-- The line numbers of a session are words of 64 bits. -/
structure Session.Words (s : Session) : Prop where
  stepIndex : s.stepIndex < indexBound
  resumeIndex : ∀ r ∈ s.resumeIndex, r < indexBound

namespace Decoder

variable {α : Type} {d : Decoder α} {P : α → Prop}

/-- Whatever a decoder reads has a property. -/
def Grants (d : Decoder α) (P : α → Prop) : Prop :=
  ∀ ⦃depth : ℕ⦄ ⦃doc : Document⦄ ⦃x : α⦄, d depth doc = some x → P x

theorem grants_natural (bound : ℕ) : (natural bound).Grants (· < bound) := by
  intro depth doc n h
  unfold natural at h
  split at h
  · split at h
    case isTrue hn => exact Option.some.inj h ▸ hn.2
    case isFalse => cases h
  · cases h

theorem grants_index : index.Grants (· < Session.indexBound) := grants_natural _

theorem Grants.list (h : d.Grants P) : d.list.Grants fun xs => ∀ x ∈ xs, P x := by
  intro depth doc xs hxs x hx
  obtain ⟨below, -, hitems⟩ := exists_of_list hxs
  obtain ⟨item, hitem⟩ := hitems x hx
  exact h hitem

theorem grants_record {names : List String} {read : Fields → Option α}
    (h : ∀ (f : Fields) (x : α), read f = some x → P x) : (record names read).Grants P := by
  intro depth doc x hx
  obtain ⟨f, -, hread⟩ := exists_of_record hx
  exact h f x hread

theorem Grants.required (h : d.Grants P) {f : Fields} {name : String} {x : α}
    (hx : f.required name d = some x) : P x := by
  obtain ⟨_, hdoc⟩ := Fields.exists_of_required hx
  exact h hdoc

theorem Grants.optional (h : d.Grants P) {f : Fields} {name : String} {value : Option α}
    (hvalue : f.optional name d = some value) : ∀ x ∈ value, P x := by
  intro x hx
  obtain rfl := Option.mem_def.1 hx
  obtain ⟨_, -, hdoc⟩ := Fields.exists_of_optional hvalue
  exact h hdoc

end Decoder

theorem Session.grants : decoder.Grants Words := by
  refine Decoder.grants_record fun f s hread => ?_
  simp only [Option.bind_eq_bind, Option.bind_eq_some_iff] at hread
  obtain ⟨thread, -, stepIndex, hstep, resumeIndex, hresume, values, -, status, -, options, -,
    rngState, -, hs⟩ := hread
  obtain rfl := Option.some.inj hs
  exact ⟨Decoder.grants_index.required hstep, Decoder.grants_index.optional hresume⟩

theorem StoredFrame.grants : decoder.Grants fun f => f.session.Words := by
  refine Decoder.grants_record fun f x hread => ?_
  simp only [Option.bind_eq_bind, Option.bind_eq_some_iff] at hread
  obtain ⟨dialog, -, session, hsession, hx⟩ := hread
  obtain rfl := Option.some.inj hx
  exact Session.grants.required hsession

/-- **Whatever snapshot is read**, the line numbers in it are words. -/
theorem Snapshot.grants : decoder.Grants fun s => ∀ f ∈ s.frames, f.session.Words := by
  refine Decoder.grants_record fun f x hread => ?_
  simp only [Option.bind_eq_bind, Option.bind_eq_some_iff] at hread
  obtain ⟨frames, hframes, hx⟩ := hread
  obtain rfl := Option.some.inj hx
  exact StoredFrame.grants.list.required hframes

namespace Stack

theorem exists_of_restored {dialogs : DialogSet} {clock : ℕ → UInt32} {s : Snapshot} {st : Stack}
    (h : ofSnapshot dialogs clock s = .ok st) {f : Frame} (hf : f ∈ st.frames) :
    ⟨f.dialog, f.session⟩ ∈ s.frames := by
  rw [← (of_ofSnapshot h).1]
  exact List.mem_map.2 ⟨f, List.mem_reverse.2 hf, rfl⟩

theorem stores_words_of_ofSnapshot {dialogs : DialogSet} {clock : ℕ → UInt32} {source : String}
    {snapshot : Snapshot} {st : Stack} (hread : Snapshot.decoder.text? source = some snapshot)
    (hrestored : ofSnapshot dialogs clock snapshot = .ok st) :
    st.Stores fun _ s => s.Words := by
  intro f hf d _
  obtain ⟨doc, -, hdoc⟩ := Option.bind_eq_some_iff.1 hread
  exact Snapshot.grants hdoc _ (exists_of_restored hrestored hf)

end Stack

/-! ### Sessions that are run -/

theorem Session.Words.resumePoint_lt {s : Session} (h : s.Words) (hs : s.HasNext) :
    s.resumePoint < indexBound := by
  unfold resumePoint
  cases hresume : s.resumeIndex with
  | none => exact hs
  | some r => exact h.resumeIndex r hresume

/-- A run finds its way in a dialog: its callbacks steer, and there are numbers for all its lines
and for the two places behind the last one. -/
structure Dialog.Navigable (d : Dialog) : Prop where
  steers : d.Steers
  numbered : ∀ thread lines, d.script.thread? thread = some lines →
    lines.length + 1 < Session.indexBound

/-- A run finds its way in every dialog of a set. -/
def DialogSet.Navigable (dialogs : DialogSet) : Prop :=
  ∀ id d, dialogs.find id = .ok d → d.Navigable

namespace Dialog

variable {d : Dialog} {s₀ s : Session} {l : Location}

theorem Reaches.index_lt (h : d.Reaches s₀ l) (hd : d.Navigable) (hs₀ : s₀.Words) :
    l.index < Session.indexBound := by
  rcases h with hfirst | ⟨lines, hlines, hindex⟩ | ⟨hnext, -, hindex⟩
  · exact hfirst ▸ Nat.two_pow_pos 64
  · exact Nat.lt_of_le_of_lt hindex (Nat.lt_of_succ_lt (hd.numbered _ lines hlines))
  · exact Nat.lt_of_le_of_lt hindex (hs₀.resumePoint_lt hnext)

/-- **A run leaves words behind** where it has found some. -/
theorem Leaves.words (h : d.Leaves s₀ s) (hd : d.Navigable) (hs₀ : s₀.Words) : s.Words := by
  have hstep (hplace : s.location = s₀.location) : s.stepIndex < Session.indexBound := by
    have hindex : s.stepIndex = s₀.stepIndex := congrArg Location.index hplace
    exact hindex ▸ hs₀.stepIndex
  cases h with
  | unmoved hplace hresume => exact ⟨hstep hplace, fun r hr => hs₀.resumeIndex r (hresume ▸ hr)⟩
  | guarded _ hplace hresume =>
    refine ⟨hstep hplace, fun r hr => ?_⟩
    rw [hresume] at hr
    cases hr
  | moved _ hplace hresume =>
    exact ⟨hplace.index_lt hd hs₀, fun r hr => (hresume r hr).2.index_lt hd hs₀⟩

end Dialog

/-- The place at which a run stands, if it goes by one. -/
def Spot.place? : Spot → Option Location
  | arriving _ cursor _ | checking _ _ cursor | performing _ cursor _ | dispatching _ cursor _ _ =>
    some cursor
  | entering _ _ p | settling _ _ p | announcing _ _ p .. | selecting _ _ p .. | handling _ _ p _ =>
    some p.cursor
  | starting _ | closing | parting _ | returned _ => none

/-- Where a run stands, and where its session stands and waits, are lines with a number. -/
structure Stage.InRange {η : Type} (t : Stage η) : Prop where
  place : ∀ place ∈ t.spot.place?, place.index < Session.indexBound
  session : t.session.Words

theorem Session.Stands.words {cursor : Location} {s : Session} (h : s.Stands cursor)
    (hcursor : cursor.index < indexBound) : s.Words := by
  obtain ⟨rfl, hresume⟩ := h
  refine ⟨hcursor, fun r hr => ?_⟩
  rw [hresume] at hr
  cases hr

/-- **Wherever a run has got**, it goes by words. -/
theorem Spot.Within.inRange {η : Type} {d : Dialog} {s₀ : Session} {t : Stage η}
    (h : t.spot.Within d s₀ t.session) (hd : d.Navigable) (hs₀ : s₀.Words) : t.InRange := by
  obtain ⟨spot, s, w⟩ := t
  have hstands {cursor : Location} (hspot : spot.place? = some cursor)
      (hreaches : d.Reaches s₀ cursor) (hs : s.Stands cursor) : Stage.InRange ⟨spot, s, w⟩ := by
    have hlt := hreaches.index_lt hd hs₀
    refine ⟨fun place hplace => ?_, hs.words hlt⟩
    obtain rfl := Option.some.inj (hspot.symm.trans hplace)
    exact hlt
  cases spot with
  | starting task => exact ⟨nofun, h.1 ▸ hs₀⟩
  | arriving budget cursor input =>
    -- the session is not yet where the run arrives
    obtain ⟨hreaches, hresume, hplace⟩ := h
    refine ⟨fun place hplace => ?_, ?_⟩
    · obtain rfl := Option.some.inj hplace
      exact hreaches.index_lt hd hs₀
    · have hhere : s.Stands s.location := ⟨rfl, hresume⟩
      refine hhere.words ?_
      rcases hplace with ⟨hsame, -⟩ | ⟨-, hreaches⟩
      · exact hsame ▸ hs₀.stepIndex
      · exact hreaches.index_lt hd hs₀
  | dispatching budget cursor action handled => exact hstands rfl h.1 h.2.1
  | entering | settling | announcing | selecting | handling | checking | performing =>
    exact hstands rfl h.1 h.2
  | closing | parting | returned => exact ⟨nofun, h.words hd hs₀⟩

namespace DialogSet

variable {dialogs : DialogSet}

/-- **Run after run** the line numbers of all sessions stay words. -/
theorem Navigable.lasting_words (h : dialogs.Navigable) :
    dialogs.Lasting fun _ _ s => s.Words where
  mono _ _ _ hs := hs
  launch _ _ _ _ _ := ⟨Nat.two_pow_pos 64, nofun⟩
  run _ id d hd _ _ hs hfresh := .inl <|
    (Dialog.always_leaves (h id d hd).steers hfresh).mono fun _ hy => hy.words (h id d hd) hs

end DialogSet

end Parley

import Parley.Proofs.Flat.Basic

/-!
# Desks

What a script does between two other ones concerns its own session and what it asks for.  A `Desk`
holds the two, and `Flat.work` runs a computation at a desk.  Two kinds of statements are made about
computations.  `Achieves P x Q` says that from desks at which `P` holds `x` comes to desks at which
`Q` holds, unless it fails; `Quiet x` says that `x` leaves the desk alone, even if it fails, but for
the state of random choice.  Both are put together along sequencing.  The session of a script is on
the stack while the script runs, so both are said of stacks that are not empty.
-/

namespace Parley

/-- What a script has before it: its session, and what it has asked for so far. -/
structure Desk where
  session : Session
  asked : Option Handover := none

namespace Desk

/-- A desk with another state of random choice. -/
def reseeded (w : Desk) (rng : UInt32) : Desk :=
  { w with session := { w.session with rngState := rng } }

/-- A script is under way and has not asked for anything. -/
structure Busy (vars : Vars) (w : Desk) : Prop where
  status : w.session.status = .running
  resumeIndex : w.session.resumeIndex = none
  values : w.session.values = vars
  asked : w.asked = none

/-- A script is at work on the line of a place. -/
structure BusyAt (cursor : Location) (vars : Vars) (w : Desk) : Prop extends w.Busy vars where
  location : w.session.location = cursor

end Desk

/-! ### Working -/

namespace Flat

variable {α β : Type}

theorem play_bind (x : HostM α) (f : α → HostM β) (q : Stack × Option Handover) :
    play (x.bind f) q = (play x q).bind fun (a, q) => play (f a) q := by
  induction x generalizing q with
  | done value => rfl
  | ask r next ih => exact ih _ _
  | abort => rfl

/-- Run a computation at a desk, on a stack, unless it is aborted. -/
def work (x : SessionM α) (w : Desk) (st : Stack) : Option (Except DialogError α × Desk × Stack) :=
  (play (x.run.run w.session) (st, w.asked)).map fun ((o, session), st, asked) =>
    (o, ⟨session, asked⟩, st)

theorem play_eq_of_work {x : SessionM α} {w w' : Desk} {st st' : Stack} {o : Except DialogError α}
    (h : work x w st = some (o, w', st')) :
    play (x.run.run w.session) (st, w.asked) = some ((o, w'.session), st', w'.asked) := by
  obtain ⟨⟨⟨o, session⟩, st', asked⟩, hplay, heq⟩ := Option.map_eq_some_iff.1 h
  cases heq
  exact hplay

theorem play_eq_none_of_work {x : SessionM α} {w : Desk} {st : Stack} (h : work x w st = none) :
    play (x.run.run w.session) (st, w.asked) = none := Option.map_eq_none_iff.1 h

theorem work_bind (x : SessionM α) (f : α → SessionM β) (w : Desk) (st : Stack) :
    work (x >>= f) w st = (work x w st).bind fun worked =>
      match worked with
      | (.ok a, w', st') => work (f a) w' st'
      | (.error e, w', st') => some (.error e, w', st') := by
  have h : play ((x >>= f).run.run w.session) (st, w.asked) = _ :=
    play_bind (x.run.run w.session) _ _
  unfold work
  rw [h]
  rcases play (x.run.run w.session) (st, w.asked) with _ | ⟨⟨o, session⟩, st', asked⟩
  · rfl
  · cases o <;> rfl

theorem work_tryCatch (x : SessionM α) (handler : DialogError → SessionM α) (w : Desk)
    (st : Stack) :
    work (tryCatch x handler) w st = (work x w st).bind fun worked =>
      match worked with
      | (.ok a, w', st') => some (.ok a, w', st')
      | (.error e, w', st') => work (handler e) w' st' := by
  have h : play ((tryCatch x handler).run.run w.session) (st, w.asked) = _ :=
    play_bind (x.run.run w.session) _ _
  unfold work
  rw [h]
  rcases play (x.run.run w.session) (st, w.asked) with _ | ⟨⟨o, session⟩, st', asked⟩
  · rfl
  · cases o <;> rfl

end Flat

/-! ### Rules -/

section

variable {α β : Type} {P : Desk → Prop} {Q : α → Desk → Prop} {R : β → Desk → Prop}
  {x : SessionM α} {f : α → SessionM β}

/-- From where `P` holds a computation comes to where `Q` holds, if it does not fail. -/
def Achieves (P : Desk → Prop) (x : SessionM α) (Q : α → Desk → Prop) : Prop :=
  ∀ w st, st.frames ≠ [] → P w → ∀ a w' st', Flat.work x w st = some (.ok a, w', st') →
    Q a w' ∧ st'.frames ≠ []

/-- Whether it fails or not, a computation changes nothing but the state of random choice. -/
def Quiet (x : SessionM α) : Prop :=
  ∀ w st o w' st', Flat.work x w st = some (o, w', st') →
    (∃ rng, w' = w.reseeded rng) ∧ st'.frames = st.frames

namespace Achieves

theorem bind (hx : Achieves P x Q) (hf : ∀ a, Achieves (Q a) (f a) R) : Achieves P (x >>= f) R := by
  intro w st hne hP b w'' st'' hb
  rw [Flat.work_bind] at hb
  obtain ⟨⟨e | a, w', st'⟩, hwork, hb⟩ := Option.bind_eq_some_iff.1 hb
  · cases hb
  · obtain ⟨hQ, hne'⟩ := hx w st hne hP a w' st' hwork
    exact hf a w' st' hne' hQ b w'' st'' hb

theorem pure {a : α} (h : ∀ w, P w → Q a w) : Achieves P (pure a) Q := by
  rintro w st hne hP _ _ _ ⟨⟩
  exact ⟨h w hP, hne⟩

theorem throw (e : DialogError) : Achieves P (throw e : SessionM α) Q := by
  rintro _ _ _ _ _ _ _ ⟨⟩

theorem abort : Achieves P (Attempt.abort : SessionM α) Q := by
  rintro _ _ _ _ _ _ _ ⟨⟩

theorem get {Q : Session → Desk → Prop} (h : ∀ w, P w → Q w.session w) :
    Achieves P (get : SessionM Session) Q := by
  rintro w st hne hP _ _ _ ⟨⟩
  exact ⟨h w hP, hne⟩

theorem active {Q : Option String → Desk → Prop} (h : ∀ w id, P w → Q (some id) w) :
    Achieves P (Attempt.active : SessionM (Option String)) Q := by
  intro w st hne hP id w' st' hid
  obtain ⟨f, rest, hframes⟩ := List.exists_cons_of_ne_nil hne
  have hactive : st.active? = some f.dialog := by
    rw [Stack.active?, Stack.top?, hframes, List.head?_cons, Option.map_some]
  have hwork : Flat.work (Attempt.active : SessionM (Option String)) w st =
      some (.ok st.active?, w, st) := rfl
  rw [hwork, hactive] at hid
  cases hid
  exact ⟨h w f.dialog hP, hne⟩

theorem modify {Q : PUnit → Desk → Prop} {g : Session → Session}
    (h : ∀ w, P w → Q ⟨⟩ { w with session := g w.session }) :
    Achieves P (modify g : SessionM PUnit) Q := by
  rintro w st hne hP _ _ _ ⟨⟩
  exact ⟨h w hP, hne⟩

theorem set {Q : PUnit → Desk → Prop} {s : Session} (h : ∀ w, P w → Q ⟨⟩ { w with session := s }) :
    Achieves P (set s : SessionM PUnit) Q := by
  rintro w st hne hP _ _ _ ⟨⟩
  exact ⟨h w hP, hne⟩

theorem weaken {Q' : α → Desk → Prop} (hx : Achieves P x Q) (h : ∀ a w, Q a w → Q' a w) :
    Achieves P x Q' :=
  fun w st hne hP a w' st' ha => (hx w st hne hP a w' st' ha).imp_left (h a w')

theorem strengthen {P' : Desk → Prop} (hx : Achieves P x Q) (h : ∀ w, P' w → P w) :
    Achieves P' x Q := fun w st hne hP => hx w st hne (h w hP)

theorem assuming {p : Prop} (h : p → Achieves P x Q) : Achieves (fun w => p ∧ P w) x Q :=
  fun w st hne hw => h hw.1 w st hne hw.2

theorem begin (dialog : String) (options : LaunchOptions) {Q : TurnStatus → Desk → Prop}
    (h : ∀ w status, P w → Q status { w with asked := some (.begin dialog options) }) :
    Achieves P (Attempt.begin dialog options : SessionM TurnStatus) Q := by
  rintro w st hne hP _ _ _ ⟨⟩
  exact ⟨h w _ hP, hne⟩

theorem replace (dialog : String) (options : LaunchOptions) {Q : TurnStatus → Desk → Prop}
    (h : ∀ w status, P w → Q status { w with asked := some (.replace dialog options) }) :
    Achieves P (Attempt.replace dialog options : SessionM TurnStatus) Q := by
  rintro w st hne hP _ _ _ ⟨⟩
  exact ⟨h w _ hP, hne⟩

theorem finish (result : Option DialogResult) {Q : TurnStatus → Desk → Prop}
    (h : ∀ w status, P w → Q status { w with asked := some (.finish result) }) :
    Achieves P (Attempt.finish result : SessionM TurnStatus) Q := by
  rintro w st hne hP _ _ _ ⟨⟩
  exact ⟨h w _ hP, hne⟩

end Achieves

theorem Desk.BusyAt.reseeded {cursor : Location} {vars : Vars} (w : Desk) (rng : UInt32)
    (hw : w.BusyAt cursor vars) : (w.reseeded rng).BusyAt cursor vars :=
  ⟨⟨hw.status, hw.resumeIndex, hw.values, hw.asked⟩, hw.location⟩

namespace Quiet

theorem bind (hx : Quiet x) (hf : ∀ a, Quiet (f a)) : Quiet (x >>= f) := by
  intro w st o w'' st'' h
  rw [Flat.work_bind] at h
  obtain ⟨⟨e | a, w', st'⟩, hwork, h⟩ := Option.bind_eq_some_iff.1 h
  · cases h
    exact hx w st _ _ _ hwork
  · obtain ⟨⟨rng, rfl⟩, hframes⟩ := hx w st _ w' st' hwork
    exact (hf a _ st' o w'' st'' h).imp_right fun h => h.trans hframes

theorem tryCatch {handler : DialogError → SessionM α} (hx : Quiet x)
    (hhandler : ∀ e, Quiet (handler e)) : Quiet (tryCatch x handler) := by
  intro w st o w'' st'' h
  rw [Flat.work_tryCatch] at h
  obtain ⟨⟨e | a, w', st'⟩, hwork, h⟩ := Option.bind_eq_some_iff.1 h
  · obtain ⟨⟨rng, rfl⟩, hframes⟩ := hx w st _ w' st' hwork
    exact (hhandler e _ st' o w'' st'' h).imp_right fun h => h.trans hframes
  · cases h
    exact hx w st _ _ _ hwork

theorem of_work (h : ∀ w st, ∃ o st', Flat.work x w st = some (o, w, st') ∧
    st'.frames = st.frames) : Quiet x := by
  intro w st o w' st' hwork
  obtain ⟨o₁, st₁, hwork₁, hframes⟩ := h w st
  rw [hwork₁] at hwork
  cases hwork
  exact ⟨⟨w.session.rngState, rfl⟩, hframes⟩

theorem pure (a : α) : Quiet (pure a) := .of_work fun _ _ => ⟨_, _, rfl, rfl⟩

theorem get : Quiet (get : SessionM Session) := .of_work fun _ _ => ⟨_, _, rfl, rfl⟩

theorem note (event : Event) : Quiet (Dialog.note event) := .of_work fun _ _ => ⟨_, _, rfl, rfl⟩

theorem send (message : OutgoingMessage) : Quiet (Attempt.send message : SessionM Unit) :=
  .of_work fun _ _ => ⟨_, _, rfl, rfl⟩

theorem active : Quiet (Attempt.active : SessionM (Option String)) :=
  .of_work fun _ _ => ⟨_, _, rfl, rfl⟩

theorem seed : Quiet (Attempt.seed : SessionM UInt32) := .of_work fun _ _ => ⟨_, _, rfl, rfl⟩

/-- What does not look at the state of random choice holds on. -/
theorem keeps (hx : Quiet x) (hP : ∀ w rng, P w → P (w.reseeded rng)) :
    Achieves P x fun _ => P := by
  intro w st hne hw a w' st' h
  obtain ⟨⟨rng, rfl⟩, hframes⟩ := hx w st _ w' st' h
  exact ⟨hP w rng hw, hframes ▸ hne⟩

theorem then_achieves {cursor : Location} {vars : Vars} (hx : Quiet x)
    (hf : ∀ a, Achieves (Desk.BusyAt cursor vars) (f a) R) :
    Achieves (Desk.BusyAt cursor vars) (x >>= f) R := (hx.keeps Desk.BusyAt.reseeded).bind hf

theorem tryCatch_achieves {handler : DialogError → SessionM α} (hx : Quiet x)
    (hP : ∀ w rng, P w → P (w.reseeded rng)) (hok : Achieves P x Q)
    (hhandler : ∀ e, Achieves P (handler e) Q) :
    Achieves P (MonadExcept.tryCatch x handler) Q := by
  intro w st hne hw a w'' st'' ha
  rw [Flat.work_tryCatch] at ha
  obtain ⟨⟨e | a', w', st'⟩, hwork, ha⟩ := Option.bind_eq_some_iff.1 ha
  · obtain ⟨⟨rng, rfl⟩, hframes⟩ := hx w st _ w' st' hwork
    exact hhandler e _ st' (hframes ▸ hne) (hP w rng hw) a w'' st'' ha
  · cases ha
    exact hok w st hne hw _ _ _ hwork

end Quiet

end

end Parley

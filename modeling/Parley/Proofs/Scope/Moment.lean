import Parley.Proofs.Conversation.Captures
import Parley.Proofs.Course.Turn
import Parley.Proofs.Course.Law

/-!
# What a session may hold

The keys under which a script keeps answers are written down in its lines (`Dialog.Collects`).
Under all other keys a session holds what it was launched with, as long as it lasts, and so does the
result that it gives in the end.  Its launch options stay the same.

A `Scope` says what a session may hold, and the laws of runs carry it through every run
(`Scope.law`).  At a moment of a turn there are the sessions that are stored, the one that runs and
those that are to be written back later; `Moment.Scoped` says it of all of them, and
`Moment.Scoped.next` keeps it from each moment to the next.
-/

namespace Parley

/-! ### Scopes -/

namespace Dialog

variable (d : Dialog)

/-- A line of a dialog keeps answers under a key. -/
def Collects (key : String) : Prop :=
  ∃ thread lines line collect, d.script.thread? thread = some lines ∧ line ∈ lines ∧
    line.collect? = some collect ∧ collect.key = some key

/-- An answer that comes in at a place is kept under a key. -/
def CollectsAt (cursor : Location) (key : String) : Prop :=
  ∃ collect, d.collectorAt cursor = some collect ∧ collect.key = some key

variable {d}

theorem CollectsAt.collects {cursor : Location} {key : String} (h : d.CollectsAt cursor key) :
    d.Collects key := by
  obtain ⟨collect, hcollector, hkey⟩ := h
  obtain ⟨lines, hlines, hbefore⟩ := Option.bind_eq_some_iff.1 hcollector
  unfold collectBefore at hbefore
  cases hindex : cursor.index with
  | zero =>
    rw [hindex] at hbefore
    cases hbefore
  | succ index =>
    rw [hindex] at hbefore
    obtain ⟨line, hline, hcollect⟩ := Option.bind_eq_some_iff.1 hbefore
    exact ⟨_, lines, line, collect, hlines, List.mem_of_getElem? hline, hcollect, hkey⟩

end Dialog

/-- What a session may hold: its launch options, and the values of its variables but for those under
some keys. -/
structure Scope where
  options : LaunchOptions
  values : Vars
  keys : String → Prop

namespace Scope

variable (S : Scope)

/-- Variables have their values but for those under the keys of a scope. -/
def Admits (vars : Vars) : Prop :=
  ∀ key, ¬S.keys key → Keyed.get? vars key = Keyed.get? S.values key

/-- A session holds what it may. -/
structure Holds (s : Session) : Prop where
  options : s.options = S.options
  values : S.Admits s.values

/-- A result that is handed over holds what it may. -/
def Grants : Request → Prop
  | .finish (some r) => S.Admits r.values
  | _ => True

/-- What comes in at a place is kept under the keys of a scope, if it is kept at all. -/
def Hears (d : Dialog) (cursor : Location) (input : Option TurnInput) : Prop :=
  ∀ answer, input.bind TurnInput.response = some answer → ∀ key, d.CollectsAt cursor key →
    S.keys key

theorem law (d : Dialog) : d.Law S.Holds S.Grants (S.Hears d) where
  congr hs hvalues hoptions := ⟨hoptions.trans hs.options, by rw [hvalues]; exact hs.values⟩
  capture {s _ _ _ collect key} hs hhears hanswer hcollector hkey := by
    refine ⟨hs.options, fun other hother => ?_⟩
    have hne : other ≠ key := by
      rintro rfl
      exact hother (hhears _ hanswer _ ⟨collect, hcollector, hkey⟩)
    exact (Keyed.get?_insert_of_ne s.values _ hne).trans (hs.values other hother)
  nothing _ _ hanswer := by cases hanswer
  begin _ _ := trivial
  replace _ _ := trivial
  finish hs := hs.values
  removed := trivial

end Scope

namespace Dialog

variable (d : Dialog)

/-- What a session of a dialog may hold that was launched with options. -/
def scope (options : LaunchOptions) : Scope := ⟨options, options.values, d.Collects⟩

/-- What a session may hold that is resumed, unless it is resumed again. -/
def scopeAt (s : Session) : Scope := ⟨s.options, s.values, d.CollectsAt ⟨s.thread, s.resumePoint⟩⟩

variable {d}

theorem scope_hears (options : LaunchOptions) (cursor : Location) (input : Option TurnInput) :
    (d.scope options).Hears d cursor input := fun _ _ _ h => h.collects

theorem scopeAt_hears (s : Session) (input : Option TurnInput) :
    (d.scopeAt s).Hears d ⟨s.thread, s.resumePoint⟩ input := fun _ _ _ h => h

theorem scopeAt_holds (s : Session) : (d.scopeAt s).Holds s := ⟨rfl, fun _ _ => rfl⟩

theorem scope_holds_launch (options : LaunchOptions) :
    (d.scope options).Holds (.launch options) := ⟨rfl, fun _ _ => rfl⟩

/-- A session begins with the values that it was launched with. -/
theorem scope_follows (options : LaunchOptions) (task : Task) {s : Session}
    (hs : (d.scope options).Holds s) :
    Spot.Follows d (d.scope options).Holds ((d.scope options).Hears d) (.starting task) s := by
  cases task with
  | begin => exact ⟨hs.options, fun key _ => by rw [hs.options]; rfl⟩
  | resume input => exact scope_hears options _ _
  | continueWith activity => exact scope_hears options _ _

/-- **A run of a dialog keeps to its scope**, and so does the result that it gives. -/
theorem abides_scope (hfree : d.CallbackFree) (htidy : d.IsTidy) {options : LaunchOptions}
    {task : Task} {s : Session} (hs : (d.scope options).Holds s)
    (hfresh : task = .begin → s.resumeIndex = none) :
    d.Abides (d.scope options).Holds (d.scope options).Grants (fun _ _ => True) (fun _ => True)
      ((task.on d).run.run s) :=
  ((d.scope options).law d).of_task hfree htidy hs hfresh (scope_follows options task hs)

end Dialog

/-! ### Moments -/

/-- A session that may be that of a frame: it holds what the dialog allows, with the launch options
of the frame. -/
def Frame.MayHold (dialogs : DialogSet) (f : Frame) (s : Session) : Prop :=
  ∃ d, dialogs.find f.dialog = .ok d ∧ (d.scope f.session.options).Holds s

/-- Two frames of one session at different times. -/
structure Frame.Same (f g : Frame) : Prop where
  id : f.id = g.id
  dialog : f.dialog = g.dialog
  options : f.session.options = g.session.options

theorem Frame.Same.mayHold {dialogs : DialogSet} {f g : Frame} (h : f.Same g) {s : Session}
    (hs : f.MayHold dialogs s) : g.MayHold dialogs s := by
  obtain ⟨d, hd, hs⟩ := hs
  exact ⟨d, h.dialog ▸ hd, h.options ▸ hs⟩

namespace Stack

variable {st : Stack} {f : Frame}

/-- A session that has just been launched, of a dialog that is there. -/
structure Launches (st : Stack) (f : Frame) : Prop where
  id : f.id = st.nextFrame
  session : ∃ options, f.session = .launch options
  dialog : ∃ d, st.dialogs.find f.dialog = .ok d

theorem Launches.mayHold (h : st.Launches f) : f.MayHold st.dialogs f.session := by
  obtain ⟨options, hsession⟩ := h.session
  obtain ⟨d, hd⟩ := h.dialog
  rw [Frame.MayHold, hsession]
  exact ⟨d, hd, Dialog.scope_holds_launch options⟩

theorem mem_or_launches_of_beginning {dialog : String} {options : LaunchOptions}
    (hf : f ∈ (st.beginning dialog options).1.frames) : f ∈ st.frames ∨ st.Launches f := by
  unfold beginning at hf
  cases hd : st.dialogs.find dialog with
  | error e =>
    rw [hd] at hf
    exact .inl hf
  | ok d =>
    rw [hd] at hf
    rcases List.mem_cons.1 hf with rfl | hf
    · exact .inr ⟨rfl, ⟨options, rfl⟩, d, hd⟩
    · exact .inl hf

theorem mem_or_launches_of_replacing {dialog : String} {options : LaunchOptions}
    (hf : f ∈ (st.replacing dialog options).1.frames) : f ∈ st.frames ∨ st.Launches f := by
  unfold replacing at hf
  cases hd : st.dialogs.find dialog with
  | error e =>
    rw [hd] at hf
    exact .inl hf
  | ok d =>
    rw [hd] at hf
    cases hframes : st.frames with
    | nil =>
      simp only [hframes] at hf
      exact hframes ▸ mem_or_launches_of_beginning hf
    | cons top rest =>
      simp only [hframes] at hf
      rcases mem_or_launches_of_beginning hf with hold | hnew
      · exact .inl (List.mem_cons_of_mem top hold)
      · exact .inr ⟨hnew.id, hnew.session, hnew.dialog⟩

end Stack

namespace Moment

/-- What may be written back for the session of a number, if it is still there. -/
def MayLeave (m : Moment) (id : ℕ) (s : Session) : Prop :=
  ∀ f ∈ m.stack.frames, f.id = id → f.MayHold m.stack.dialogs s

/-- Every session holds what it may, and so does what is going to be written back for it. -/
structure Scoped (m : Moment) : Prop where
  stored : ∀ f ∈ m.stack.frames, f.MayHold m.stack.dialogs f.session
  /-- A run either works on the session on top, or is over but for writing it back. -/
  running : ∀ id taken rest, m.phase = .running id taken rest →
    (∃ f d, m.stack.top? = some f ∧ f.id = id ∧ m.stack.dialogs.find f.dialog = .ok d ∧
      d.Abides (d.scope f.session.options).Holds (d.scope f.session.options).Grants
        (fun _ _ => True) (fun _ => True) rest) ∨
    ∃ o s, rest = .done (o, s) ∧ m.MayLeave id s
  suspended : ∀ w ∈ m.suspended, ∃ s, w.Spent (w.id, s) ∧ m.MayLeave w.id s

theorem mem_or_launches_of_asked {m : Moment} {id : ℕ} {taken : Session} {r : Request}
    {next : r.Answer → Remainder} {f : Frame} (hf : f ∈ (m.asked id taken r next).stack.frames) :
    f ∈ m.stack.frames ∨ m.stack.Launches f := by
  cases r with
  | send | active | note | seed => exact .inl hf
  | cancelAll => exact absurd hf List.not_mem_nil
  | begin dialog options => exact Stack.mem_or_launches_of_beginning hf
  | replace dialog options => exact Stack.mem_or_launches_of_replacing hf
  | finish result => exact .inl (Stack.mem_frames_finishing hf)

namespace Scoped

variable {m m' : Moment}

theorem mayLeave_of_done (hsound : m.Sound) (h : m.Scoped) {id : ℕ} {taken : Session}
    {o : Except DialogError TurnStatus} {s : Session}
    (hphase : m.phase = .running id taken (.done (o, s))) : m.MayLeave id s := by
  intro g hg hid
  rcases h.running id taken _ hphase with ⟨f, d, htop, rfl, hd, habides⟩ | ⟨o', s', hdone, hleft⟩
  · obtain rfl := hsound.orderly.eq_of_id_eq hg (Stack.mem_frames_of_top? htop) hid
    cases habides with
    | done hs => exact ⟨d, hd, hs⟩
  · obtain ⟨-, rfl⟩ := Prod.mk.inj (HostM.done.inj hdone)
    exact hleft g hg hid

/-- **From one moment to the next** sessions keep their numbers, dialogs and launch options, and
others have just been launched. -/
theorem same_or_launches (hsound : m.Sound) (h : m.Scoped) (hm : m.next? = some m') {f' : Frame}
    (hf' : f' ∈ m'.stack.frames) :
    (∃ f ∈ m.stack.frames, f.Same f') ∨ m.stack.Launches f' := by
  have hsame (f : Frame) : f.Same f := ⟨rfl, rfl, rfl⟩
  cases step_of_next? hm with
  | @finish st K id taken o session =>
    left
    rw [frames_finished] at hf'
    obtain ⟨g, hg, hid, hdialog, hsession⟩ := Stack.exists_of_mem_frames_store hf'
    refine ⟨g, hg, hid, hdialog, ?_⟩
    by_cases hown : f'.id = id
    · obtain ⟨d, -, hholds⟩ := h.mayLeave_of_done hsound rfl g hg (hid.trans hown)
      rw [hsession, if_pos hown]
      exact hholds.options.symm
    · rw [hsession, if_neg hown]
  | ask id taken r next =>
    exact (mem_or_launches_of_asked hf').imp_left fun hold => ⟨f', hold, hsame f'⟩
  | missing | unregistered | enter | stop | resume | discard | answer =>
    exact .inl ⟨f', hf', hsame f'⟩

/-- What may be written back for a session of a number may be so at the next moment. -/
theorem mayLeave_next (hsound : m.Sound) (h : m.Scoped) (hm : m.next? = some m') {id : ℕ}
    (hid : id < m.stack.nextFrame) {s : Session} (hs : m.MayLeave id s) : m'.MayLeave id s := by
  intro f' hf' hid'
  rw [dialogs_next hm]
  rcases h.same_or_launches hsound hm hf' with ⟨f, hf, hsame⟩ | hnew
  · exact hsame.mayHold (hs f hf (hsame.id.trans hid'))
  · have hfresh := hnew.id
    omega

theorem stored_next (hsound : m.Sound) (h : m.Scoped) (hm : m.next? = some m') :
    ∀ f ∈ m'.stack.frames, f.MayHold m'.stack.dialogs f.session := by
  intro f' hf'
  rw [dialogs_next hm]
  rcases h.same_or_launches hsound hm hf' with ⟨f, hf, hsame⟩ | hnew
  · -- only a run that is over changes what is stored, and only of its own session
    by_cases hrun : ∃ id taken value, m.phase = .running id taken (.done value)
    · obtain ⟨id, taken, ⟨o, session⟩, hphase⟩ := hrun
      have hleft := h.mayLeave_of_done hsound hphase
      obtain ⟨st, phase, K⟩ := m
      obtain rfl : phase = .running id taken (.done (o, session)) := hphase
      obtain rfl := Option.some.inj hm
      rw [frames_finished] at hf'
      obtain ⟨g, hg, hid, -, hsession⟩ := Stack.exists_of_mem_frames_store hf'
      obtain rfl := hsound.orderly.eq_of_id_eq hf hg (hsame.id.trans hid.symm)
      by_cases hown : f'.id = id
      · rw [hsession, if_pos hown]
        exact hsame.mayHold (hleft f hf (hid.trans hown))
      · rw [hsession, if_neg hown]
        exact hsame.mayHold (h.stored f hf)
    · have hrun : ∀ id taken value, m.phase ≠ .running id taken (.done value) :=
        fun id taken value hphase => hrun ⟨id, taken, value, hphase⟩
      rcases mem_frames_next hm hrun hf' with hold | hfresh
      · exact h.stored f' hold
      · have hlt := hsound.orderly.fresh f hf
        have hid := hsame.id
        omega
  · exact hnew.mayHold

theorem suspended_next (hsound : m.Sound) (h : m.Scoped) (hm : m.next? = some m') :
    ∀ w ∈ m'.suspended, ∃ s, w.Spent (w.id, s) ∧ m'.MayLeave w.id s := by
  -- a number that is in use is not given to anybody else, so what may be written back still may
  have hold : ∀ w ∈ m.suspended, ∃ s, w.Spent (w.id, s) ∧ m'.MayLeave w.id s := by
    intro w hw
    obtain ⟨s, hspent, hs⟩ := h.suspended w hw
    have hlt := hsound.lt_nextFrame (mem_runs_of_mem_suspended hw)
    exact ⟨s, hspent, h.mayLeave_next hsound hm hlt hs⟩
  -- a run that hands the turn over does nothing more, so what it is going to leave is known
  have hnew {f : Frame} {d : Dialog} (htop : m.stack.top? = some f)
      (hd : m.stack.dialogs.find f.dialog = .ok d) (taken : Session)
      {next : Except DialogError TurnStatus → Remainder} {status : TurnStatus} {s : Session}
      (hstops : Stops next status s) (hs : (d.scope f.session.options).Holds s) :
      ∃ s, Suspended.Spent ⟨f.id, taken, next⟩ (f.id, s) ∧ m'.MayLeave f.id s := by
    have hmem := Stack.mem_frames_of_top? htop
    refine ⟨s, ⟨rfl, status, hstops⟩,
      h.mayLeave_next hsound hm (hsound.orderly.fresh f hmem) fun g hg hid => ?_⟩
    obtain rfl := hsound.orderly.eq_of_id_eq hg hmem hid
    exact ⟨d, hd, hs⟩
  cases step_of_next? hm with
  | finish id taken o session => cases o <;> exact hold
  | missing | unregistered | enter | stop | resume | discard => exact hold
  | answer => exact fun w hw => hold w (List.mem_cons_of_mem _ hw)
  | @ask st K id taken r next =>
    rcases h.running id taken _ rfl with ⟨f, d, htop, rfl, hd, habides⟩ | ⟨o, s, hdone, -⟩
    case inr => cases hdone
    cases habides with
    | plain hr =>
      cases r with
      | send | active | note | seed => exact hold
      | begin | replace | finish | cancelAll => exact hr.elim
    | begin _ hstops hs | replace _ hstops hs | finish _ hstops hs =>
      exact List.forall_mem_cons.2 ⟨hnew htop hd taken hstops hs, hold⟩

theorem not_running_of_opened (st : Stack) (asked : Handover) (id : ℕ) (taken : Session)
    (rest : Remainder) : (asked.opened st).2 ≠ .running id taken rest := by
  have hbegin (st : Stack) (dialog : String) (options : LaunchOptions) :
      (st.beginning dialog options).2 ≠ .running id taken rest := by
    unfold Stack.beginning
    split <;> exact fun h => by cases h
  cases asked with
  | begin dialog options => exact hbegin st dialog options
  | replace dialog options =>
    unfold Handover.opened Stack.replacing
    dsimp only
    split
    · exact fun h => by cases h
    · split <;> exact hbegin _ dialog options
  | finish result =>
    unfold Handover.opened Stack.finishing
    dsimp only
    split
    · exact fun h => by cases h
    · split
      · exact fun h => by cases h
      · split <;> exact fun h => by cases h

theorem running_of_entering (hsound : m.Sound) (hopened : m.Opened) (hloaded : m.stack.Loaded)
    (h : m.Scoped) {id : ℕ} {task : Dialog → SessionM TurnStatus} {f : Frame} {d : Dialog}
    (hphase : m.phase = .entering id task) (hf : m.stack.frame? id = some f)
    (hd : m.stack.dialogs.find f.dialog = .ok d) :
    m.stack.top? = some f ∧ f.id = id ∧
      d.Abides (d.scope f.session.options).Holds (d.scope f.session.options).Grants
        (fun _ _ => True) (fun _ => True) ((task d).run.run f.session) := by
  have hentering := hsound.phase
  rw [PhaseSound, hphase] at hentering
  obtain ⟨-, g, htop, rfl⟩ := hentering
  obtain rfl : g = f := Option.some.inj ((Stack.frame?_of_top? htop).symm.trans hf)
  refine ⟨htop, rfl, ?_⟩
  obtain ⟨t, rfl, hfresh⟩ := hopened g.id task hphase
  obtain ⟨d', hd', hholds⟩ := h.stored g (Stack.mem_frames_of_top? htop)
  obtain rfl : d' = d := Except.ok.inj (hd'.symm.trans hd)
  have hdialog := hloaded _ _ hd
  refine Dialog.abides_scope hdialog.callbackFree hdialog.tidy hholds fun ht => ?_
  obtain ⟨g', options, htop', hsession⟩ := hfresh ht
  obtain rfl : g' = g := Option.some.inj (htop'.symm.trans htop)
  rw [hsession]
  rfl

theorem running_next (hsound : m.Sound) (hopened : m.Opened) (hloaded : m.stack.Loaded)
    (h : m.Scoped) (hm : m.next? = some m') :
    ∀ id taken rest, m'.phase = .running id taken rest →
      (∃ f d, m'.stack.top? = some f ∧ f.id = id ∧ m'.stack.dialogs.find f.dialog = .ok d ∧
        d.Abides (d.scope f.session.options).Holds (d.scope f.session.options).Grants
          (fun _ _ => True) (fun _ => True) rest) ∨
      ∃ o s, rest = .done (o, s) ∧ m'.MayLeave id s := by
  intro id' taken' rest' hphase
  cases step_of_next? hm with
  | missing | unregistered | stop | resume | discard => cases hphase
  | finish id taken o session => cases o <;> cases hphase
  | @enter st id task K f d hf hd =>
    cases hphase
    obtain ⟨htop, hid, habides⟩ := h.running_of_entering hsound hopened hloaded rfl hf hd
    exact .inl ⟨f, d, htop, hid, hd, habides⟩
  | @answer st outcome w K =>
    cases hphase
    obtain ⟨s, hspent, hs⟩ := h.suspended w List.mem_cons_self
    obtain ⟨o, hnext, -⟩ := hspent.next outcome
    exact .inr ⟨o, s, hnext, hs⟩
  | @ask st K id taken r next =>
    rcases h.running id taken _ rfl with ⟨f, d, htop, rfl, hd, habides⟩ | ⟨o, s, hdone, -⟩
    case inr => cases hdone
    cases habides with
    | plain hr hnext =>
      cases r with
      | send | active | note | seed =>
        cases hphase
        exact .inl ⟨f, d, htop, rfl, hd, hnext _⟩
      | begin | replace | finish | cancelAll => exact hr.elim
    | @begin dialog options =>
      exact absurd hphase (not_running_of_opened st (.begin dialog options) _ _ _)
    | @replace dialog options =>
      exact absurd hphase (not_running_of_opened st (.replace dialog options) _ _ _)
    | @finish result => exact absurd hphase (not_running_of_opened st (.finish result) _ _ _)

/-- **From one moment to the next** every session holds what it may. -/
theorem next (hsound : m.Sound) (hopened : m.Opened) (hloaded : m.stack.Loaded) (h : m.Scoped)
    (hm : m.next? = some m') : m'.Scoped :=
  ⟨h.stored_next hsound hm, h.running_next hsound hopened hloaded hm, h.suspended_next hsound hm⟩

end Scoped

end Moment

end Parley

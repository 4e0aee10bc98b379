import Mathlib.Data.List.Nodup
import Parley.Proofs.Moment.Basic

/-!
# What holds at every moment

A stack is *orderly* when the numbers of its sessions ascend from the bottom to the top and are all
used up, and the dialog of every session is there.  At a moment of a call more is known, because
the runs that are under way are known too (`Moment.Sound`): `executing` lists exactly them, none of
them twice; what is pending is for one of them; and the session of each is stored as it was when it
was checked out.  A session that is about to run is on top and does not run already.

`Moment.Sound.next` : all this is kept from each moment to the next.  `Moment.Sound.leads` : so it
holds throughout a call that begins with it.
-/

namespace Parley

/-! ### Orderly stacks -/

namespace Stack

/-- The sessions are numbered upwards, below the number of the next one, and belong to dialogs of
the set. -/
structure Orderly (st : Stack) : Prop where
  /-- The active session is the first in the list. -/
  ascending : st.frames.Pairwise fun f g => g.id < f.id
  fresh : ∀ f ∈ st.frames, f.id < st.nextFrame
  registered : ∀ f ∈ st.frames, ∃ d, st.dialogs.find f.dialog = .ok d

/-- Between calls: the stack is orderly, no session runs and nothing is pending. -/
structure Quiescent (st : Stack) : Prop extends st.Orderly where
  executing : st.executing = []
  pending : st.pending = []

theorem top?_eq_some_iff {st : Stack} {f : Frame} :
    st.top? = some f ↔ ∃ rest, st.frames = f :: rest := List.head?_eq_some_iff

theorem mem_frames_of_top? {st : Stack} {f : Frame} (h : st.top? = some f) : f ∈ st.frames :=
  List.mem_of_head? h

theorem frame?_of_top? {st : Stack} {f : Frame} (h : st.top? = some f) :
    st.frame? f.id = some f := by
  obtain ⟨rest, hrest⟩ := top?_eq_some_iff.1 h
  simp [frame?, hrest]

/-- What is written back is the session of one number, and nothing else of it. -/
theorem exists_of_mem_frames_store {st : Stack} {id : ℕ} {session : Session} {f : Frame}
    (hf : f ∈ (st.store id session).frames) :
    ∃ g ∈ st.frames, g.id = f.id ∧ g.dialog = f.dialog ∧
      f.session = if f.id = id then session else g.session := by
  obtain ⟨g, hg, rfl⟩ := List.mem_map.1 hf
  refine ⟨g, hg, ?_⟩
  by_cases hid : g.id = id <;> simp [hid]

namespace Orderly

variable {st : Stack}

theorem eq_of_id_eq (h : st.Orderly) {f g : Frame} (hf : f ∈ st.frames) (hg : g ∈ st.frames)
    (hid : f.id = g.id) : f = g := by
  have hids : (st.frames.map Frame.id).Nodup :=
    List.pairwise_map.2 (h.ascending.imp fun hlt => Nat.ne_of_gt hlt)
  exact List.inj_on_of_nodup_map hids hf hg hid

theorem congr {st' : Stack} (h : st.Orderly) (hframes : st'.frames = st.frames)
    (hnext : st'.nextFrame = st.nextFrame) (hdialogs : st'.dialogs = st.dialogs) :
    st'.Orderly := by
  refine ⟨?_, ?_, ?_⟩
  · rw [hframes]; exact h.ascending
  · rw [hframes, hnext]; exact h.fresh
  · rw [hframes, hdialogs]; exact h.registered

theorem tail (h : st.Orderly) {f : Frame} {rest : List Frame} (hf : st.frames = f :: rest) :
    ({ st with frames := rest } : Stack).Orderly := by
  have hsub : ∀ g ∈ rest, g ∈ st.frames := fun g hg => hf ▸ List.mem_cons_of_mem f hg
  have hasc := h.ascending
  rw [hf] at hasc
  exact ⟨hasc.of_cons, fun g hg => h.fresh g (hsub g hg), fun g hg => h.registered g (hsub g hg)⟩

theorem cons (h : st.Orderly) {dialog : String} {d : Dialog} (hd : st.dialogs.find dialog = .ok d)
    (session : Session) :
    ({ st with
      frames := ⟨st.nextFrame, dialog, session⟩ :: st.frames
      nextFrame := st.nextFrame + 1 } : Stack).Orderly := by
  refine ⟨List.pairwise_cons.2 ⟨h.fresh, h.ascending⟩, ?_, ?_⟩
  · intro f hf
    rcases List.mem_cons.1 hf with rfl | hf
    · exact Nat.lt_succ_self _
    · exact Nat.lt_succ_of_lt (h.fresh f hf)
  · intro f hf
    rcases List.mem_cons.1 hf with rfl | hf
    · exact ⟨d, hd⟩
    · exact h.registered f hf

theorem push (h : st.Orderly) {dialog : String} {d : Dialog} (hd : st.dialogs.find dialog = .ok d)
    (options : LaunchOptions) : (st.push dialog options).Orderly := h.cons hd _

theorem store (h : st.Orderly) (id : ℕ) (session : Session) : (st.store id session).Orderly := by
  refine ⟨List.pairwise_map.2 (h.ascending.imp fun {f g} hlt => ?_), ?_, ?_⟩
  · split <;> split <;> exact hlt
  · intro f hf
    obtain ⟨g, hg, hid, -, -⟩ := exists_of_mem_frames_store hf
    exact hid ▸ h.fresh g hg
  · intro f hf
    obtain ⟨g, hg, -, hdialog, -⟩ := exists_of_mem_frames_store hf
    exact hdialog ▸ h.registered g hg

theorem cancelAll (_ : st.Orderly) : st.cancelAll.Orderly :=
  ⟨.nil, fun _ hf => absurd hf List.not_mem_nil, fun _ hf => absurd hf List.not_mem_nil⟩

end Orderly

end Stack

/-! ### Moments -/

namespace Moment

/-- The runs that are under way, the innermost first: their sessions and the states in which these
were checked out. -/
def runs (m : Moment) : List (ℕ × Session) :=
  (match m.phase with
    | .running id taken _ => [(id, taken)]
    | _ => []) ++ m.suspended.map fun s => (s.id, s.taken)

/-- What the phase of a moment tells of its stack. -/
def PhaseSound (m : Moment) : Prop :=
  match m.phase with
  | .entering id _ => id ∉ m.stack.executing ∧ ∃ f, m.stack.top? = some f ∧ f.id = id
  | .stopped id _ => id ∉ m.stack.executing ∧ id < m.stack.nextFrame
  | .running .. | .answering _ => True

/-- The session that has just stopped, if one has. -/
def stopped? (m : Moment) : Option ℕ :=
  match m.phase with
  | .stopped id _ => some id
  | _ => none

/-- What holds at every moment of a call. -/
structure Sound (m : Moment) : Prop where
  orderly : m.stack.Orderly
  executing : m.stack.executing = m.runs.map Prod.fst
  nodup : m.stack.executing.Nodup
  below : ∀ id ∈ m.stack.executing, id < m.stack.nextFrame
  /-- What is pending is for a session that runs or has just stopped. -/
  pending : ∀ p ∈ m.stack.pending, p.1 ∈ m.stack.executing ∨ m.stopped? = some p.1
  /-- The sessions that run are stored as they were checked out. -/
  taken : ∀ run ∈ m.runs, ∀ f ∈ m.stack.frames, f.id = run.1 → f.session = run.2
  phase : m.PhaseSound

variable {st : Stack} {K : List Suspended} {outcome : Except DialogError TurnStatus}

/-- The sessions of runs that are under way have numbers that are used up. -/
theorem Sound.lt_nextFrame {m : Moment} (h : m.Sound) {run : ℕ × Session} (hrun : run ∈ m.runs) :
    run.1 < m.stack.nextFrame :=
  h.below _ (h.executing ▸ List.mem_map_of_mem hrun)

theorem mem_runs_of_running {m : Moment} {id : ℕ} {taken : Session} {rest : Remainder}
    (h : m.phase = .running id taken rest) : (id, taken) ∈ m.runs := by
  rw [runs, h]
  exact List.mem_append_left _ List.mem_cons_self

theorem mem_runs_of_mem_suspended {m : Moment} {w : Suspended} (h : w ∈ m.suspended) :
    (w.id, w.taken) ∈ m.runs :=
  List.mem_append_right _ (List.mem_map_of_mem h)

theorem sound_nil_iff : Sound ⟨st, .answering outcome, []⟩ ↔ st.Quiescent := by
  constructor
  · intro h
    have hex : st.executing = [] := h.executing
    refine ⟨h.orderly, hex, List.eq_nil_iff_forall_not_mem.2 fun p hp => ?_⟩
    rcases h.pending p hp with hrun | hstop
    · have hrun : p.1 ∈ st.executing := hrun
      rw [hex] at hrun
      exact absurd hrun List.not_mem_nil
    · cases hstop
  · intro h
    refine ⟨h.toOrderly, h.executing, h.executing ▸ List.nodup_nil, ?_, ?_, ?_, trivial⟩
    · simp [h.executing]
    · simp [h.pending]
    · simp [runs]

/-! ### How runs come about -/

theorem sound_beginning (h : Sound ⟨st, .answering outcome, K⟩) (dialog : String)
    (options : LaunchOptions) :
    Sound ⟨(st.beginning dialog options).1, (st.beginning dialog options).2, K⟩ := by
  unfold Stack.beginning
  cases hd : st.dialogs.find dialog with
  | error e => exact ⟨h.orderly, h.executing, h.nodup, h.below, h.pending, h.taken, trivial⟩
  | ok d =>
    have hfresh : st.nextFrame ∉ st.executing := fun hmem => Nat.lt_irrefl _ (h.below _ hmem)
    refine ⟨(h.orderly.congr rfl rfl rfl : (st.note _).Orderly).push hd options, h.executing,
      h.nodup, ?_, h.pending, ?_, hfresh, _, rfl, rfl⟩
    · exact fun id hid => Nat.lt_succ_of_lt (h.below id hid)
    · intro run hrun f hf hid
      rcases List.mem_cons.1 hf with rfl | hf
      · -- the new session has a number of its own
        have hmem : run.1 ∈ st.executing := h.executing ▸ List.mem_map_of_mem hrun
        have hid : st.nextFrame = run.1 := hid
        exact absurd (hid ▸ hmem) hfresh
      · exact h.taken run hrun f hf hid

theorem Sound.tail (h : Sound ⟨st, .answering outcome, K⟩) {f : Frame} {rest : List Frame}
    (hf : st.frames = f :: rest) : Sound ⟨{ st with frames := rest }, .answering outcome, K⟩ :=
  ⟨h.orderly.tail hf, h.executing, h.nodup, h.below, h.pending,
    fun run hrun g hg => h.taken run hrun g (hf ▸ List.mem_cons_of_mem f hg), trivial⟩

theorem sound_replacing (h : Sound ⟨st, .answering outcome, K⟩) (dialog : String)
    (options : LaunchOptions) :
    Sound ⟨(st.replacing dialog options).1, (st.replacing dialog options).2, K⟩ := by
  unfold Stack.replacing
  cases st.dialogs.find dialog with
  | error e => exact ⟨h.orderly, h.executing, h.nodup, h.below, h.pending, h.taken, trivial⟩
  | ok d =>
    cases hf : st.frames with
    | nil => exact sound_beginning h dialog options
    | cons f rest =>
      have ht := h.tail hf
      have hnoted : Sound ⟨({ st with frames := rest } : Stack).note
          (.replacingDialog f.dialog dialog), .answering outcome, K⟩ :=
        ⟨ht.orderly.congr rfl rfl rfl, ht.executing, ht.nodup, ht.below, ht.pending, ht.taken,
          trivial⟩
      exact sound_beginning hnoted dialog options

theorem sound_finishing (h : Sound ⟨st, .answering outcome, K⟩) (result : Option DialogResult) :
    Sound ⟨(st.finishing result).1, (st.finishing result).2, K⟩ := by
  unfold Stack.finishing
  cases hf : st.frames with
  | nil => exact ⟨h.orderly, h.executing, h.nodup, h.below, h.pending, h.taken, trivial⟩
  | cons f rest =>
    have ht := h.tail hf
    cases rest with
    | nil => exact ⟨ht.orderly.congr rfl rfl rfl, ht.executing, ht.nodup, ht.below, ht.pending,
        ht.taken, trivial⟩
    | cons parent rest =>
      by_cases hp : parent.id ∈ st.executing
      · -- the parent runs: the result waits for it
        simp only [hp, if_true]
        refine ⟨ht.orderly.congr rfl rfl rfl, ht.executing, ht.nodup, ht.below, ?_, ht.taken,
          trivial⟩
        intro p hmem
        rcases List.mem_cons.1 hmem with rfl | hmem
        · exact .inl hp
        · exact ht.pending p (List.mem_of_mem_filter hmem)
      · -- the parent does not run, and is on top now
        simp only [hp, if_false]
        exact ⟨ht.orderly.congr rfl rfl rfl, ht.executing, ht.nodup, ht.below, ht.pending,
          ht.taken, hp, parent, rfl, rfl⟩

/-! ### From one moment to the next -/

/-- The session on top is checked out and runs. -/
theorem Sound.checkOut {id : ℕ} {task : Dialog → SessionM TurnStatus}
    (h : Sound ⟨st, .entering id task, K⟩) {f : Frame} (hf : st.frame? id = some f)
    (rest : Remainder) : Sound ⟨st.enter id, .running id f.session rest, K⟩ := by
  obtain ⟨hnot, g, htop, rfl⟩ : id ∉ st.executing ∧ ∃ g, st.top? = some g ∧ g.id = id := h.phase
  obtain rfl : g = f := Option.some.inj ((Stack.frame?_of_top? htop).symm.trans hf)
  have hg : g ∈ st.frames := Stack.mem_frames_of_top? htop
  refine ⟨h.orderly.congr rfl rfl rfl, congrArg (g.id :: ·) h.executing,
    List.nodup_cons.2 ⟨hnot, h.nodup⟩, ?_, ?_, ?_, trivial⟩
  · intro id hid
    rcases List.mem_cons.1 hid with rfl | hid
    · exact h.orderly.fresh g hg
    · exact h.below id hid
  · intro p hp
    rcases h.pending p hp with hrun | hstop
    · exact .inl (List.mem_cons_of_mem _ hrun)
    · cases hstop
  · intro run hrun f hf hid
    rcases List.mem_cons.1 hrun with rfl | hrun
    · rw [h.orderly.eq_of_id_eq hf hg hid]
    · exact h.taken run hrun f hf hid

/-- The state of a session that has run is written back. -/
theorem Sound.checkIn {id : ℕ} {taken : Session} {rest : Remainder}
    (h : Sound ⟨st, .running id taken rest, K⟩) (session : Session) (status : TurnStatus) :
    Sound ⟨st.leave.store id session, .stopped id status, K⟩ := by
  have hex : st.executing = id :: (K.map fun s => (s.id, s.taken)).map Prod.fst := h.executing
  have hleave : st.leave.executing = (K.map fun s => (s.id, s.taken)).map Prod.fst := by
    rw [Stack.leave, hex, List.tail_cons]
  have hnodup := h.nodup
  have hbelow := h.below
  have hpending := h.pending
  simp only [hex] at hnodup hbelow hpending
  obtain ⟨hnot, hnodup⟩ := List.nodup_cons.1 hnodup
  have horderly : st.leave.Orderly := h.orderly.congr rfl rfl rfl
  refine ⟨horderly.store id session, hleave, hleave ▸ hnodup, ?_, ?_, ?_, hleave ▸ hnot,
    hbelow id List.mem_cons_self⟩
  · exact fun i hi => hbelow i (List.mem_cons_of_mem _ (hleave ▸ hi))
  · intro p hp
    rcases hpending p hp with hrun | hstop
    · rcases List.mem_cons.1 hrun with hid | hrun
      · exact .inr (congrArg some hid.symm)
      · exact .inl (hleave ▸ hrun)
    · cases hstop
  · intro run hrun f hf hid
    -- no other run is of the session that is written back
    have hmem : run.1 ∈ (K.map fun s => (s.id, s.taken)).map Prod.fst := List.mem_map_of_mem hrun
    have hne : f.id ≠ id := fun he => hnot (he ▸ hid ▸ hmem)
    obtain ⟨g, hg, hgid, -, hsession⟩ := Stack.exists_of_mem_frames_store hf
    rw [hsession, if_neg hne]
    exact h.taken run (List.mem_cons_of_mem _ hrun) g hg (hgid.trans hid)

/-- What was pending for a session that has stopped is taken up or forgotten. -/
theorem Sound.undefer {id : ℕ} {status : TurnStatus} (h : Sound ⟨st, .stopped id status, K⟩) :
    Sound ⟨st.undefer id, .answering outcome, K⟩ := by
  refine ⟨h.orderly.congr rfl rfl rfl, h.executing, h.nodup, h.below, ?_, h.taken, trivial⟩
  intro p hp
  obtain ⟨hp, hne⟩ := List.mem_filter.1 hp
  rcases h.pending p hp with hrun | hstop
  · exact .inl hrun
  · have hid : id = p.1 := Option.some.inj hstop
    simp [hid] at hne

theorem Sound.asked {id : ℕ} {taken : Session} {rest : Remainder}
    (h : Sound ⟨st, .running id taken rest, K⟩) (r : Request) (next : r.Answer → Remainder) :
    (asked ⟨st, .running id taken rest, K⟩ id taken r next).Sound := by
  have hwaits : ∀ next, Sound ⟨st, .answering (.ok .waiting), ⟨id, taken, next⟩ :: K⟩ := fun _ =>
    ⟨h.orderly, h.executing, h.nodup, h.below, h.pending, h.taken, trivial⟩
  cases r with
  | send | active | note | seed =>
    exact ⟨h.orderly.congr rfl rfl rfl, h.executing, h.nodup, h.below, h.pending, h.taken, trivial⟩
  | cancelAll =>
    exact ⟨h.orderly.cancelAll, h.executing, h.nodup, h.below,
      fun _ hp => absurd hp List.not_mem_nil, fun _ _ _ hf => absurd hf List.not_mem_nil, trivial⟩
  | begin dialog options => exact sound_beginning (hwaits next) dialog options
  | replace dialog options => exact sound_replacing (hwaits next) dialog options
  | finish result => exact sound_finishing (hwaits next) result

theorem Sound.finished {id : ℕ} {taken : Session} {rest : Remainder}
    (h : Sound ⟨st, .running id taken rest, K⟩) (o : Except DialogError TurnStatus)
    (session : Session) : (finished ⟨st, .running id taken rest, K⟩ id o session).Sound := by
  cases o with
  | ok status => exact h.checkIn session status
  | error e => exact (h.checkIn session .waiting).undefer

/-- **From one moment to the next**, everything is kept that holds at every moment. -/
theorem Sound.next {m m' : Moment} (h : m.Sound) (hm : m.next? = some m') : m'.Sound := by
  cases step_of_next? hm with
  | @missing st id task K hf =>
    -- the session that is entered is on top
    obtain ⟨-, f, htop, rfl⟩ : id ∉ st.executing ∧ ∃ f, st.top? = some f ∧ f.id = id := h.phase
    rw [Stack.frame?_of_top? htop] at hf
    cases hf
  | @unregistered st id task K frame e hf hd =>
    obtain ⟨d, hd'⟩ := h.orderly.registered frame (List.mem_of_find?_eq_some hf)
    rw [hd] at hd'
    cases hd'
  | enter hf hd => exact h.checkOut hf _
  | finish id taken o session => exact h.finished o session
  | ask id taken r next => exact h.asked r next
  | @stop st id status K hp =>
    refine ⟨h.orderly, h.executing, h.nodup, h.below, fun p hmem => ?_, h.taken, trivial⟩
    rcases h.pending p hmem with hrun | hstop
    · exact .inl hrun
    · have hid : id = p.1 := Option.some.inj hstop
      simpa [hid] using List.lookup_eq_none_iff.1 hp p hmem
  | @resume st id status K input hp htop =>
    have hu : Sound ⟨st.undefer id, .answering (.ok status), K⟩ := h.undefer
    have hstopped : id ∉ st.executing ∧ id < st.nextFrame := h.phase
    obtain ⟨f, hf, hid⟩ := Option.map_eq_some_iff.1 htop
    exact ⟨hu.orderly, hu.executing, hu.nodup, hu.below, hu.pending, hu.taken, hstopped.1, f, hf,
      hid⟩
  | @discard st id status K input hp htop =>
    have hu : Sound ⟨st.undefer id, .answering (.ok status), K⟩ := h.undefer
    exact ⟨hu.orderly.congr rfl rfl rfl, hu.executing, hu.nodup, hu.below, hu.pending, hu.taken,
      trivial⟩
  | answer => exact ⟨h.orderly, h.executing, h.nodup, h.below, h.pending, h.taken, trivial⟩

/-- What holds at one moment holds at all that come after it. -/
theorem Sound.leads {m m' : Moment} (h : m.Sound) (hm : m.Leads m') : m'.Sound :=
  hm.invariant h fun _ _ => Sound.next

end Moment

/-- Every moment of a call on a quiescent stack is sound. -/
theorem Stack.Quiescent.sound {st : Stack} (h : st.Quiescent) {c : Stack.Call} {m : Moment}
    (hm : Stack.Occurs c st m) : m.Sound := by
  obtain ⟨m₀, hopen, hlead⟩ := hm
  have hst : Moment.Sound ⟨st, .answering (.ok .waiting), []⟩ := Moment.sound_nil_iff.2 h
  refine Moment.Sound.leads ?_ hlead
  cases c with
  | start dialog options | begin dialog options =>
    obtain rfl := Option.some.inj hopen
    exact Moment.sound_beginning hst dialog options
  | replace dialog options =>
    obtain rfl := Option.some.inj hopen
    exact Moment.sound_replacing hst dialog options
  | finish result =>
    obtain rfl := Option.some.inj hopen
    exact Moment.sound_finishing hst result
  | continueTurn activity =>
    obtain ⟨f, htop, rfl⟩ := Option.map_eq_some_iff.1 hopen
    exact ⟨hst.orderly, hst.executing, hst.nodup, hst.below, hst.pending, hst.taken,
      h.executing ▸ List.not_mem_nil, f, htop, rfl⟩
  | cancelAll | send => cases hopen

end Parley

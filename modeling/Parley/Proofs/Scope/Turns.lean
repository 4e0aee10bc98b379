import Parley.Proofs.Scope.Nesting

/-!
# Scopes throughout the turns

From turn to turn, and from moment to moment within a turn, a session keeps its dialog and its
launch options as long as it lasts (`Stack.Continues`), and it holds what it may
(`Moment.Proper.scopes`).  So does the result that it leaves behind when it ends
(`Moment.Records`).  No turn has to end well for that: what a failing run has got to is written back
as well (`Stack.InScope.turn`).
-/

namespace Parley

open Stepping

/-! ### Sessions that last -/

namespace Frame.Same

variable {f g h : Frame}

theorem refl (f : Frame) : f.Same f := ⟨rfl, rfl, rfl⟩

theorem trans (hfg : f.Same g) (hgh : g.Same h) : f.Same h :=
  ⟨hfg.id.trans hgh.id, hfg.dialog.trans hgh.dialog, hfg.options.trans hgh.options⟩

end Frame.Same

namespace Stack

/-- One stack goes on from another: its sessions are sessions of the other one, with their launch
options, or have numbers that were still to come. -/
structure Continues (st st' : Stack) : Prop where
  nextFrame : st.nextFrame ≤ st'.nextFrame
  frames : ∀ f' ∈ st'.frames, (∃ f ∈ st.frames, f.Same f') ∨ st.nextFrame ≤ f'.id

namespace Continues

variable {st st' st'' : Stack}

theorem of_frames_eq (hframes : st'.frames = st.frames) (hnext : st'.nextFrame = st.nextFrame) :
    st.Continues st' :=
  ⟨Nat.le_of_eq hnext.symm, fun f hf => .inl ⟨f, hframes ▸ hf, .refl f⟩⟩

theorem refl (st : Stack) : st.Continues st := of_frames_eq rfl rfl

theorem trans (h : st.Continues st') (h' : st'.Continues st'') : st.Continues st'' := by
  refine ⟨Nat.le_trans h.nextFrame h'.nextFrame, fun f'' hf'' => ?_⟩
  rcases h'.frames f'' hf'' with ⟨f', hf', hsame'⟩ | hfresh
  · rcases h.frames f' hf' with ⟨f, hf, hsame⟩ | hfresh
    · exact .inl ⟨f, hf, hsame.trans hsame'⟩
    · exact .inr (hsame'.id ▸ hfresh)
  · exact .inr (Nat.le_trans h.nextFrame hfresh)

end Continues

theorem continues_of_forall {st st' : Stack} (hnext : st.nextFrame ≤ st'.nextFrame)
    (h : ∀ f' ∈ st'.frames, (∃ f ∈ st.frames, f.Same f') ∨ st.Launches f') : st.Continues st' :=
  ⟨hnext, fun f' hf' => (h f' hf').imp_right fun hnew => Nat.le_of_eq hnew.id.symm⟩

end Stack

/-! ### Results -/

namespace Stack

theorem results_beginning (st : Stack) (dialog : String) (options : LaunchOptions) :
    (st.beginning dialog options).1.results = st.results := by
  unfold beginning
  split <;> rfl

theorem results_replacing (st : Stack) (dialog : String) (options : LaunchOptions) :
    (st.replacing dialog options).1.results = st.results := by
  unfold replacing
  split
  · rfl
  · split
    · exact results_beginning st dialog options
    · exact results_beginning (note { st with frames := _ } _) dialog options

theorem results_finishing {st : Stack} {f : Frame} (htop : st.top? = some f)
    (result : Option DialogResult) :
    (st.finishing result).1.results =
      match result with
      | some r => st.results.push ⟨f.dialog, r⟩
      | none => st.results := by
  obtain ⟨rest, hframes⟩ := top?_eq_some_iff.1 htop
  unfold finishing
  rw [hframes]
  cases rest with
  | nil => rfl
  | cons parent rest =>
    dsimp only
    split <;> rfl

end Stack

namespace Moment

/-- What becomes of the results from one moment to the next: the session on top may leave one, with
the variables that it may hold. -/
inductive Records (m m' : Moment) : Prop where
  | nothing (h : m'.stack.results = m.stack.results)
  | result {f : Frame} {d : Dialog} {r : DialogResult} (htop : m.stack.top? = some f)
      (hd : m.stack.dialogs.find f.dialog = .ok d)
      (hr : (d.scope f.session.options).Admits r.values)
      (h : m'.stack.results = m.stack.results.push ⟨f.dialog, r⟩)

variable {m m' : Moment}

theorem Scoped.records (h : m.Scoped) (hm : m.next? = some m') : Records m m' := by
  cases step_of_next? hm with
  | missing | unregistered | enter | stop | resume | discard | answer => exact .nothing rfl
  | finish id taken o session => cases o <;> exact .nothing rfl
  | @ask st K id taken r next =>
    cases r with
    | send | active | note | seed | cancelAll => exact .nothing rfl
    | begin dialog options => exact .nothing (st.results_beginning dialog options)
    | replace dialog options => exact .nothing (st.results_replacing dialog options)
    | finish result =>
      rcases h.running id taken _ rfl with ⟨f, d, htop, -, hd, habides⟩ | ⟨o, s, hdone, -⟩
      case inr => cases hdone
      have hresults := Stack.results_finishing htop result
      cases habides with
      | plain hr => exact hr.elim
      | finish hr =>
        cases result with
        | none => exact .nothing hresults
        | some r => exact .result htop hd hr hresults

/-! ### Moments -/

/-- A moment of a turn of loaded dialogs, as far as its sessions and what they hold are
concerned. -/
structure Proper (m : Moment) : Prop where
  sound : m.Sound
  opened : m.Opened
  loaded : m.stack.Loaded
  scopes : m.Scoped

namespace Proper

theorem next (h : m.Proper) (hm : m.next? = some m') : m'.Proper where
  sound := h.sound.next hm
  opened := opened_next hm
  loaded id d hd := h.loaded id d (dialogs_next hm ▸ hd)
  scopes := h.scopes.next h.sound h.opened h.loaded hm

theorem leads (h : m.Proper) (hlead : m.Leads m') : m'.Proper :=
  hlead.invariant h fun _ _ ht hm => ht.next hm

theorem continues_next (h : m.Proper) (hm : m.next? = some m') :
    m.stack.Continues m'.stack :=
  Stack.continues_of_forall (later_next hm).nextFrame fun _ hf' =>
    h.scopes.same_or_launches h.sound hm hf'

/-- **From a moment to all later ones**, sessions keep their dialogs and launch options. -/
theorem continues (h : m.Proper) (hlead : m.Leads m') : m.stack.Continues m'.stack := by
  let I (t : Moment) : Prop := t.Proper ∧ m.stack.Continues t.stack
  have hI : I m' := hlead.invariant (I := I) ⟨h, .refl _⟩ fun t t' ⟨ht, hcontinues⟩ hm =>
    ⟨ht.next hm, hcontinues.trans (ht.continues_next hm)⟩
  exact hI.2

end Proper

end Moment

/-! ### Turns -/

namespace Stack

/-- Turns are taken on a stack one after another, and messages are taken out.  No turn has to end
well.  If `alone` holds, none of them starts a dialog on top of others. -/
inductive Turns (alone : Prop) (start : Stack) : Stack → Prop where
  | refl : Turns alone start start
  | turn {st st' : Stack} {c : Call} {outcome : Except DialogError (Option TurnStatus)}
      (h : Turns alone start st) (hc : c.IsTurn) (halone : alone → ¬c.Interrupts st)
      (hreturns : Returns c st outcome st') : Turns alone start st'
  | drain {st : Stack} (h : Turns alone start st) : Turns alone start st.drain.2

/-- What is known of loaded dialogs between turns. -/
structure InScope (alone : Prop) (st : Stack) : Prop where
  quiescent : st.Quiescent
  loaded : st.Loaded
  stored : ∀ f ∈ st.frames, f.MayHold st.dialogs f.session
  nested : alone → st.Nested

variable {alone : Prop} {st st' : Stack} {c : Call}

theorem inScope_empty {dialogs : DialogSet} {clock : ℕ → UInt32}
    (hloaded : (empty dialogs clock).Loaded) : (empty dialogs clock).InScope alone :=
  ⟨quiescent_empty dialogs clock, hloaded, fun _ hf => absurd hf List.not_mem_nil,
    fun _ _ hf => absurd hf List.not_mem_nil⟩

theorem mem_or_launches_of_opening {m : Moment} (hm : c.opening? st = some m) {f : Frame}
    (hf : f ∈ m.stack.frames) : f ∈ st.frames ∨ st.Launches f := by
  cases c with
  | start dialog options | begin dialog options =>
    obtain rfl := Option.some.inj hm
    exact mem_or_launches_of_beginning hf
  | replace dialog options =>
    obtain rfl := Option.some.inj hm
    exact mem_or_launches_of_replacing hf
  | finish result =>
    obtain rfl := Option.some.inj hm
    exact .inl (mem_frames_finishing hf)
  | continueTurn activity =>
    obtain ⟨top, -, rfl⟩ := Option.map_eq_some_iff.1 hm
    exact .inl hf
  | cancelAll | send => cases hm

theorem nextFrame_le_opening {m : Moment} (hm : c.opening? st = some m) :
    st.nextFrame ≤ m.stack.nextFrame := by
  cases c with
  | start dialog options | begin dialog options =>
    obtain rfl := Option.some.inj hm
    exact st.nextFrame_le_beginning dialog options
  | replace dialog options =>
    obtain rfl := Option.some.inj hm
    exact st.nextFrame_le_replacing dialog options
  | finish result =>
    obtain rfl := Option.some.inj hm
    exact Nat.le_of_eq (st.nextFrame_finishing result).symm
  | continueTurn activity =>
    obtain ⟨top, -, rfl⟩ := Option.map_eq_some_iff.1 hm
    exact Nat.le_refl _
  | cancelAll | send => cases hm

theorem idle_opening {m : Moment} (hm : c.opening? st = some m) :
    m.suspended = [] ∧ ∀ id taken rest, m.phase ≠ .running id taken rest := by
  cases c with
  | start dialog options | begin dialog options =>
    obtain rfl := Option.some.inj hm
    exact ⟨rfl, Moment.Scoped.not_running_of_opened st (.begin dialog options)⟩
  | replace dialog options =>
    obtain rfl := Option.some.inj hm
    exact ⟨rfl, Moment.Scoped.not_running_of_opened st (.replace dialog options)⟩
  | finish result =>
    obtain rfl := Option.some.inj hm
    exact ⟨rfl, Moment.Scoped.not_running_of_opened st (.finish result)⟩
  | continueTurn activity =>
    obtain ⟨top, -, rfl⟩ := Option.map_eq_some_iff.1 hm
    exact ⟨rfl, fun _ _ _ h => by cases h⟩
  | cancelAll | send => cases hm

namespace InScope

theorem proper_opening (h : st.InScope alone) {m : Moment} (hm : c.opening? st = some m) :
    m.Proper := by
  have hdialogs := dialogs_opening hm
  obtain ⟨hsuspended, hphase⟩ := idle_opening hm
  refine ⟨h.quiescent.sound ⟨m, hm, .refl m⟩, Moment.opened_opening hm,
    fun id d hd => h.loaded id d (hdialogs ▸ hd), fun f hf => ?_,
    fun id taken rest hrun => absurd hrun (hphase id taken rest), fun w hw => ?_⟩
  · rw [hdialogs]
    rcases mem_or_launches_of_opening hm hf with hold | hnew
    · exact h.stored f hold
    · exact hnew.mayHold
  · rw [hsuspended] at hw
    cases hw

/-- **Every moment of a call is proper**, and goes on from the stack that the call was made on. -/
theorem occurs (h : st.InScope alone) {m : Moment} (hm : Occurs c st m) :
    m.Proper ∧ m.stack.dialogs = st.dialogs ∧ st.Continues m.stack := by
  obtain ⟨m₀, hopen, hlead⟩ := hm
  have hproper := h.proper_opening hopen
  have hcontinues : st.Continues m₀.stack :=
    continues_of_forall (nextFrame_le_opening hopen) fun f hf =>
      (mem_or_launches_of_opening hopen hf).imp_left fun hold => ⟨f, hold, .refl f⟩
  exact ⟨hproper.leads hlead, (Moment.dialogs_leads hlead).trans (dialogs_opening hopen),
    hcontinues.trans (hproper.continues hlead)⟩

/-- **After a turn** everything is in scope again, whatever its outcome. -/
theorem turn (h : st.InScope alone) (hc : c.IsTurn) (halone : alone → ¬c.Interrupts st)
    {outcome : Except DialogError (Option TurnStatus)} (hreturns : Returns c st outcome st') :
    st'.InScope alone ∧ st.Continues st' := by
  have hdialogs := hreturns.dialogs_eq
  have hloaded : st'.Loaded := fun id d hd => h.loaded id d (hdialogs ▸ hd)
  have hquiescent := h.quiescent.returns hreturns
  have hnested := h.quiescent.nested_of_returns h.loaded hc h.nested halone hreturns
  cases hopen : c.opening? st with
  | some m =>
    obtain ⟨o, ⟨hlead, -⟩, -⟩ := (returns_iff_ends hopen).1 hreturns
    obtain ⟨hproper, -, hcontinues⟩ := h.occurs ⟨m, hopen, hlead⟩
    exact ⟨⟨hquiescent, hloaded, hproper.scopes.stored, hnested⟩, hcontinues⟩
  | none =>
    -- no session runs in a turn on an empty stack
    rcases (returns_of_opening?_eq_none hopen).1 hreturns with
      ⟨-, -, -, rfl⟩ | ⟨rfl, -⟩ | ⟨_, rfl, -⟩
    · exact ⟨⟨hquiescent, hloaded, h.stored, hnested⟩, .refl _⟩
    · exact hc.elim
    · exact hc.elim

theorem drain (h : st.InScope alone) : st.drain.2.InScope alone :=
  ⟨⟨h.quiescent.toOrderly.congr rfl rfl rfl, h.quiescent.executing, h.quiescent.pending⟩,
    h.loaded, h.stored, h.nested⟩

/-- **Throughout the turns** everything is in scope, and sessions last with their options. -/
theorem turns (h : st.InScope alone) (hturns : Turns alone st st') :
    st'.InScope alone ∧ st.Continues st' := by
  induction hturns with
  | refl => exact ⟨h, .refl st⟩
  | turn _ hc halone hreturns ih =>
    obtain ⟨hscope, hcontinues⟩ := ih
    obtain ⟨hscope', hcontinues'⟩ := hscope.turn hc halone hreturns
    exact ⟨hscope', hcontinues.trans hcontinues'⟩
  | drain _ ih => exact ⟨ih.1.drain, ih.2.trans (.of_frames_eq rfl rfl)⟩

end InScope

end Stack

end Parley

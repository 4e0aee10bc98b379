import Parley.Proofs.Flat.Calm
import Parley.Proofs.Moment.Sound

/-!
# The flat machine does what the engine does

The stack of the flat machine is the calm stack of the engine.  A step of the flat machine is a
stretch of moments, from where a session is about to run to where the next one is
(`Moment.agrees_stretch`).  In a stretch the engine runs a script (`Moment.plays_of_yields`) and
does what it asks for (`Moment.agrees_handOver`), which may unwind runs that are spent.

`Moment.refines` : step by step, the engine refines the flat machine.
-/

namespace Parley

/-- What the engine does at once when it is asked for something. -/
def Handover.opened : Handover → Stack → Stack × Phase
  | .begin dialog options => Stack.beginning dialog options
  | .replace dialog options => Stack.replacing dialog options
  | .finish result => Stack.finishing result

theorem Task.yielding (task : Task) {d : Dialog} (h : d.CallbackFree) :
    Yielding (fun _ => True) (task.on d) := by
  cases task with
  | begin => exact h.yielding_begin
  | resume input => exact h.yielding_resume input
  | continueWith activity => exact h.yielding_continueWith activity

namespace Moment

open Stack Stepping

variable {st : Stack} {K : List Suspended} {W : List (ℕ × Session)}

/-! ### Scripts -/

/-- What a script cannot change without asking for another session. -/
structure Kept (st st' : Stack) : Prop where
  nextFrame : st'.nextFrame = st.nextFrame
  executing : st'.executing = st.executing
  pending : st'.pending = st.pending

theorem Kept.trans {st st' st'' : Stack} (h : Kept st st') (h' : Kept st' st'') : Kept st st'' :=
  ⟨h'.nextFrame.trans h.nextFrame, h'.executing.trans h.executing, h'.pending.trans h.pending⟩

/-- How the engine and the flat machine run a script: to its end, or to where it asks for another
session, or to where it is aborted.  Where it asks, the flat machine has the script stop, and the
engine has it wait, spent. -/
inductive Plays (st : Stack) (id : ℕ) (taken : Session) (K : List Suspended)
    (W : List (ℕ × Session)) (tree : Remainder) : Prop where
  | stops (st' : Stack) (o : Except DialogError TurnStatus) (session : Session)
      (hkept : Kept st st')
      (hglide : Glides ⟨st, .running id taken tree, K⟩
        ⟨st', .running id taken (.done (o, session)), K⟩)
      (hplay : Flat.play tree (st.calm W, none) = some ((o, session), st'.calm W, none))
  | asks (st' : Stack) (asked : Handover) (s : Suspended) (session : Session) (status : TurnStatus)
      (hkept : Kept st st') (hs : s.Spent (id, session))
      (hglide : Glides ⟨st, .running id taken tree, K⟩
        ⟨(asked.opened st').1, (asked.opened st').2, s :: K⟩)
      (hplay : Flat.play tree (st.calm W, none) =
        some ((.ok status, session), st'.calm W, some asked))
  | aborts (st' : Stack)
      (hglide : Glides ⟨st, .running id taken tree, K⟩ ⟨st', .running id taken .abort, K⟩)
      (hplay : Flat.play tree (st.calm W, none) = none)

theorem Plays.head {st st₁ : Stack} {id : ℕ} {taken : Session} {K : List Suspended}
    {W : List (ℕ × Session)} {tree tree₁ : Remainder} (h : Plays st₁ id taken K W tree₁)
    (hkept : Kept st st₁)
    (hstep : next? ⟨st, .running id taken tree, K⟩ = some ⟨st₁, .running id taken tree₁, K⟩)
    (hplay : Flat.play tree (st.calm W, none) = Flat.play tree₁ (st₁.calm W, none)) :
    Plays st id taken K W tree := by
  cases h with
  | stops st' o session hkept' hglide hplay' =>
    exact .stops st' o session (hkept.trans hkept') (.head rfl hstep hglide) (hplay.trans hplay')
  | asks st' asked s session status hkept' hs hglide hplay' =>
    exact .asks st' asked s session status (hkept.trans hkept') hs (.head rfl hstep hglide)
      (hplay.trans hplay')
  | aborts st' hglide hplay' => exact .aborts st' (.head rfl hstep hglide) (hplay.trans hplay')

/-- A script that yields once at most is run by both machines alike. -/
theorem plays_of_yields {tree : Remainder} (h : Yields (fun _ => True) tree) (st : Stack) (id : ℕ)
    (taken : Session) (K : List Suspended) (W : List (ℕ × Session)) :
    Plays st id taken K W tree := by
  induction h generalizing st with
  | done value => exact .stops st value.1 value.2 ⟨rfl, rfl, rfl⟩ (.refl _) rfl
  | @plain r next hr _ ih =>
    cases r with
    | send message =>
      have hrest := ih (.ok ()) { st with outbox := st.outbox.push message }
      exact hrest.head ⟨rfl, rfl, rfl⟩ rfl rfl
    | active =>
      refine (ih st.active? st).head ⟨rfl, rfl, rfl⟩ rfl ?_
      simp only [Flat.play, Flat.answer, active?_calm]
    | note event => exact (ih () (st.note event)).head ⟨rfl, rfl, rfl⟩ rfl rfl
    | seed =>
      have hrest := ih (st.clock st.ticks) { st with ticks := st.ticks + 1 }
      exact hrest.head ⟨rfl, rfl, rfl⟩ rfl rfl
    | begin | replace | finish | cancelAll => exact hr.elim
  | @begin dialog options next value session hstops _ =>
    refine .asks st (.begin dialog options) ⟨id, taken, next⟩ session value ⟨rfl, rfl, rfl⟩
      ⟨rfl, value, hstops⟩ (.head rfl rfl (.refl _)) ?_
    simp only [Flat.play, Flat.answer, hstops.ok]
  | @replace dialog options next value session hstops _ =>
    refine .asks st (.replace dialog options) ⟨id, taken, next⟩ session value ⟨rfl, rfl, rfl⟩
      ⟨rfl, value, hstops⟩ (.head rfl rfl (.refl _)) ?_
    simp only [Flat.play, Flat.answer, hstops.ok]
  | @finish result next value session hstops _ =>
    refine .asks st (.finish result) ⟨id, taken, next⟩ session value ⟨rfl, rfl, rfl⟩
      ⟨rfl, value, hstops⟩ (.head rfl rfl (.refl _)) ?_
    simp only [Flat.play, Flat.answer, hstops.ok]
  | abort => exact .aborts st (.refl _) rfl

/-! ### What a script asks for -/

/-- The engine and the flat machine are about to run the same session, or both have come to their
end, or are stuck. -/
inductive Agrees : Moment → Flat → Prop where
  | running {st : Stack} {K : List Suspended} {W : List (ℕ × Session)} (h : st.Waiting K W)
      (id : ℕ) (task : Task) : Agrees ⟨st, .entering id task.on, K⟩ (.running task (st.calm W))
  | halted {st : Stack} {o o' : Except DialogError TurnStatus} (h : SameOutcome o o') :
      Agrees (arrived [] (o, st)) (.halted o' st)
  | aborted {st st' : Stack} {id : ℕ} {taken : Session} {K : List Suspended} :
      Agrees ⟨st, .running id taken .abort, K⟩ (.aborted st')

theorem agrees_unwind (h : st.Waiting K W) {o o' : Except DialogError TurnStatus}
    (hsame : SameOutcome o o') :
    ∃ m, Glides ⟨st, .answering o, K⟩ m ∧ Agrees m (.halted o' (st.calm W)) := by
  obtain ⟨o₁, hsame', hglide⟩ := glides_unwind h o
  exact ⟨_, hglide, .halted (hsame'.trans hsame)⟩

theorem agrees_begin (h : st.Waiting K W) (dialog : String) (options : LaunchOptions) :
    ∃ m, Glides ⟨(st.beginning dialog options).1, (st.beginning dialog options).2, K⟩ m ∧
      Agrees m (Flat.begin dialog options (st.calm W)) := by
  have hfind : (st.calm W).dialogs.find dialog = st.dialogs.find dialog := rfl
  unfold Stack.beginning Flat.begin
  rw [hfind]
  cases st.dialogs.find dialog with
  | error e => exact agrees_unwind h rfl
  | ok d =>
    let noted := st.note (.beginningDialog dialog st.nextFrame st.depth)
    have hnot : noted.nextFrame ∉ W.map Prod.fst := by
      rw [h.keys]
      exact fun hmem => Nat.lt_irrefl _ (h.below _ hmem)
    have hpush : (noted.push dialog options).calm W = (noted.calm W).push dialog options :=
      calm_push hnot dialog options
    have hwait : (noted.push dialog options).Waiting K W := h.congr rfl (Nat.le_succ _) rfl
    refine ⟨_, .refl _, ?_⟩
    dsimp only
    rw [depth_calm]
    exact hpush ▸ .running hwait st.nextFrame .begin

theorem agrees_replace (h : st.Waiting K W) (dialog : String) (options : LaunchOptions) :
    ∃ m, Glides ⟨(st.replacing dialog options).1, (st.replacing dialog options).2, K⟩ m ∧
      Agrees m (Flat.replace dialog options (st.calm W)) := by
  have hfind : (st.calm W).dialogs.find dialog = st.dialogs.find dialog := rfl
  unfold Stack.replacing Flat.replace
  rw [hfind]
  cases st.dialogs.find dialog with
  | error e => exact agrees_unwind h rfl
  | ok d =>
    cases hf : st.frames with
    | nil =>
      rw [frames_calm_nil hf]
      exact agrees_begin h dialog options
    | cons frame rest =>
      rw [frames_calm_cons hf]
      have hwait : (({ st with frames := rest } : Stack).note
          (.replacingDialog frame.dialog dialog)).Waiting K W := h.congr rfl (Nat.le_refl _) rfl
      exact agrees_begin hwait dialog options

theorem agrees_finish (h : st.Waiting K W) (result : Option DialogResult) :
    ∃ m, Glides ⟨(st.finishing result).1, (st.finishing result).2, K⟩ m ∧
      Agrees m (Flat.finish result (st.calm W)) := by
  unfold Stack.finishing Flat.finish
  cases hf : st.frames with
  | nil =>
    rw [frames_calm_nil hf]
    exact agrees_unwind h rfl
  | cons frame rest =>
    rw [frames_calm_cons hf]
    have hdrop : (st.drop frame rest result).Waiting K W := h.congr rfl (Nat.le_refl _) rfl
    cases rest with
    | nil => exact agrees_unwind hdrop rfl
    | cons parent rest =>
      by_cases hp : parent.id ∈ st.executing
      · -- the parent is among the runs that wait: its run is over before it is resumed
        simp only [if_pos hp]
        obtain ⟨st', K', W', h', hcalm', hglide⟩ :=
          glides_unwind_to hdrop hp rfl (result.map .result) .waiting
        refine ⟨_, hglide, ?_⟩
        have hagrees := Agrees.running h' parent.id (.resume (result.map .result))
        rw [hcalm'] at hagrees
        exact hagrees
      · -- the parent is idle, and is resumed inside the run of its child
        simp only [if_neg hp]
        exact ⟨_, .refl _, .running hdrop parent.id (.resume (result.map .result))⟩

theorem agrees_handOver (h : st.Waiting K W) (asked : Handover) :
    ∃ m, Glides ⟨(asked.opened st).1, (asked.opened st).2, K⟩ m ∧
      Agrees m (Flat.handOver asked (st.calm W)) := by
  cases asked with
  | begin dialog options => exact agrees_begin h dialog options
  | replace dialog options => exact agrees_replace h dialog options
  | finish result => exact agrees_finish h result

theorem exists_spent (id : ℕ) (session : Session) :
    ∃ s : Suspended, s.id = id ∧ s.Spent (id, session) :=
  ⟨⟨id, session, fun answer => .done (answer.map fun _ => .waiting, session)⟩, rfl, rfl, .waiting,
    fun _ => rfl, fun _ => rfl⟩

/-- **A script, from where its session runs to where the next one is about to**, or to the end of
the call. -/
theorem agrees_stretch {frame : Frame} {tree : Remainder} (h : st.Waiting K W)
    (hnot : frame.id ∉ st.executing) (hbelow : frame.id < st.nextFrame)
    (hyields : Yields (fun _ => True) tree) :
    ∃ m, Glides ⟨st.enter frame.id, .running frame.id frame.session tree, K⟩ m ∧
      Agrees m (Flat.played frame (st.calm W) (Flat.play tree (st.calm W, none))) := by
  have hwaits {st' : Stack} (hkept : Kept (st.enter frame.id) st') {s : Suspended}
      {session : Session} (hid : s.id = frame.id) (hs : s.Spent (frame.id, session)) :
      st'.Waiting (s :: K) ((frame.id, session) :: W) := by
    refine h.cons hs (hid ▸ hnot) (hid ▸ hbelow) ?_ hkept.nextFrame hkept.pending
    rw [hkept.executing, hid]
    rfl
  have hcalm : (st.enter frame.id).calm W = st.calm W := rfl
  rw [← hcalm]
  rcases plays_of_yields hyields (st.enter frame.id) frame.id frame.session K W with
    ⟨st', o, session, hkept, hglide, hplay⟩ |
    ⟨st', asked, s, session, status, hkept, hs, hglide, hplay⟩ | ⟨st', hglide, hplay⟩
  · -- the script stops by itself, and so do all runs that wait
    obtain ⟨s, hid, hs⟩ := exists_spent frame.id session
    obtain ⟨htail, htailcalm⟩ := (hwaits hkept hid hs).tail
    rw [hid] at htail htailcalm
    have hsame : SameOutcome o o := rfl
    obtain ⟨m, hglide', hagrees⟩ := agrees_unwind htail hsame
    have hdone := glides_done (K := K) (hkept.pending.trans h.pending) frame.id frame.session o
      session
    refine ⟨m, hglide.trans (hdone.trans hglide'), ?_⟩
    rw [hplay, Flat.played, Flat.stopped_none, store_calm, ← htailcalm]
    exact hagrees
  · -- the script has handed the turn over, and waits from now on
    obtain ⟨m, hglide', hagrees⟩ := agrees_handOver (hwaits hkept hs.id.symm hs) asked
    refine ⟨m, hglide.trans hglide', ?_⟩
    rw [hplay, Flat.played, Flat.stopped, store_calm]
    exact hagrees
  · refine ⟨_, hglide, ?_⟩
    rw [hplay]
    exact .aborted

end Moment

/-! ### The simulation -/

/-- No dialog of a stack has callbacks. -/
def Stack.CallbackFree (st : Stack) : Prop :=
  ∀ id d, st.dialogs.find id = .ok d → d.CallbackFree

namespace Moment

open Stack Stepping

/-- What relates a moment of the engine to a state of the flat machine. -/
structure Follows (m : Moment) (t : Flat) : Prop where
  sound : m.Sound
  callbackFree : m.stack.CallbackFree
  agrees : Agrees m t

/-- **The engine does in moments what the flat machine does in one step**, and both run the same
sessions with the same tasks. -/
theorem refines :
    Refines next? entered? Flat.next? Flat.entered? (fun w => (w.1, w.2.on)) Follows where
  ends := by
    rintro m t ⟨-, -, hagrees⟩ hend
    cases hagrees with
    | halted | aborted => exact ⟨rfl, rfl, rfl⟩
    | running =>
      simp only [Flat.next?] at hend
      split at hend
      · cases hend
      · split at hend <;> cases hend
  steps := by
    rintro m t t' ⟨hsound, hfree, hagrees⟩ hstep
    cases hagrees with
    | halted | aborted => cases hstep
    | @running st K W hwait id task =>
      obtain ⟨hnot, f, htop, rfl⟩ : id ∉ st.executing ∧ ∃ f, st.top? = some f ∧ f.id = id :=
        hsound.phase
      have hmem := mem_frames_of_top? htop
      obtain ⟨d, hd⟩ := hsound.orderly.registered f hmem
      -- nothing is going to be written back for a session that does not run
      have htop' : (st.calm W).top? = some f := by
        rw [top?_calm, htop, Option.map_some, written_of_not_mem (hwait.keys ▸ hnot)]
      have hd' : (st.calm W).dialogs.find f.dialog = .ok d := hd
      simp only [Flat.next?, htop', hd', Option.some.injEq] at hstep
      obtain ⟨m', hglide, hagrees'⟩ := agrees_stretch hwait hnot (hsound.orderly.fresh f hmem)
        (task.yielding (hfree _ d hd) f.session)
      have hnext : next? ⟨st, .entering f.id task.on, K⟩ = some _ :=
        next?_entering (frame?_of_top? htop) hd
      have hlead := (Leads.single hnext).trans hglide.leads
      refine ⟨(f.id, task), _, m', rfl, ?_, hnext, hglide, hsound.leads hlead, ?_, hstep ▸ hagrees'⟩
      · simp only [Flat.entered?, htop', Option.map_some]
      · intro id d hd
        rw [dialogs_leads hlead] at hd
        exact hfree id d hd

theorem Agrees.arrived_left {x : Except DialogError TurnStatus × Stack} {t : Flat}
    (h : Agrees (arrived [] x) t) : ∃ o', SameOutcome x.1 o' ∧ t = .halted o' x.2 := by
  generalize hm : arrived [] x = m at h
  cases h with
  | running | aborted => cases hm
  | @halted st o o' hsame =>
    obtain rfl : x = (o, st) := arrived_injective [] hm
    exact ⟨o', hsame, rfl⟩

theorem Agrees.halted_right {m : Moment} {o' : Except DialogError TurnStatus}
    (h : Agrees m (.halted o' st)) : ∃ o, SameOutcome o o' ∧ m = arrived [] (o, st) := by
  cases h with
  | halted hsame => exact ⟨_, hsame, rfl⟩

/-- What the engine comes to, the flat machine comes to. -/
theorem Follows.halts {m m' : Moment} {t : Flat} {o : Except DialogError TurnStatus}
    (h : m'.Follows t) (hglide : m.Glides m') (hends : Ends next? m (arrived [] (o, st))) :
    ∃ ws o', SameOutcome o o' ∧ Shows Flat.next? Flat.entered? t ws (.halted o' st) ∧
      Shows next? entered? m (ws.map fun w => (w.1, w.2.on)) (arrived [] (o, st)) := by
  have hseen : entered? (arrived [] (o, st)) = none := rfl
  obtain ⟨vs, hvs⟩ := hends.shows hseen
  obtain ⟨ws, t', rfl, hws, hfollows⟩ := refines.shows_of_glides hvs hglide h
  obtain ⟨o', hsame, rfl⟩ := hfollows.agrees.arrived_left
  exact ⟨ws, o', hsame, hws, hvs⟩

/-- What the flat machine comes to, the engine comes to. -/
theorem Follows.arrives {m m' : Moment} {t : Flat} {o' : Except DialogError TurnStatus}
    (h : m'.Follows t) (hglide : m.Glides m') (hends : Ends Flat.next? t (.halted o' st)) :
    ∃ o, SameOutcome o o' ∧ Ends next? m (arrived [] (o, st)) := by
  have hseen : Flat.entered? (.halted o' st) = none := rfl
  obtain ⟨ws, hws⟩ := hends.shows hseen
  obtain ⟨s', hshows, hfollows⟩ := refines.shows h hws
  obtain ⟨o, hsame, rfl⟩ := hfollows.agrees.halted_right
  exact ⟨o, hsame, (Shows.of_glides hglide hshows).ends⟩

end Moment

end Parley

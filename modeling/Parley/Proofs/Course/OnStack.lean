import Parley.Proofs.Checkout
import Parley.Proofs.Course.Stage
import Parley.Proofs.Flat.Yielding
import Parley.Proofs.TurnTaking

/-!
# Runs on a stack

The host of a run is a stack.  What a run does itself, between the calls of its hooks and handlers,
leaves the sessions on the stack alone, until the dialog ends or another one is begun; then the run
is over but for the hooks after the end (`Dialog.undisturbed_of_next?`).  So all that may happen to
the sessions while a run goes on happens in the calls.

A number stays with its session and its dialog for good: among later sessions the number of an
earlier one is that of the same dialog (`Stack.Later`).
-/

namespace Parley

open Stepping StatefulAttempt

namespace Stack

/-! ### Numbers of sessions -/

/-- One stack comes after another: what sessions it has are sessions of the other one or have
numbers that were still to come. -/
structure Later (st st' : Stack) : Prop where
  nextFrame : st.nextFrame ≤ st'.nextFrame
  frames : ∀ f' ∈ st'.frames,
    (∃ f ∈ st.frames, f.id = f'.id ∧ f.dialog = f'.dialog) ∨ st.nextFrame ≤ f'.id

theorem later_of_frames_eq {st st' : Stack} (hframes : st'.frames = st.frames)
    (hnext : st'.nextFrame = st.nextFrame) : st.Later st' :=
  ⟨Nat.le_of_eq hnext.symm, fun f hf => .inl ⟨f, hframes ▸ hf, rfl, rfl⟩⟩

theorem Later.refl (st : Stack) : st.Later st := later_of_frames_eq rfl rfl

theorem Later.trans {st st' st'' : Stack} (h : st.Later st') (h' : st'.Later st'') :
    st.Later st'' := by
  refine ⟨Nat.le_trans h.nextFrame h'.nextFrame, fun f'' hf'' => ?_⟩
  rcases h'.frames f'' hf'' with ⟨f', hf', hid', hdialog'⟩ | hfresh
  · rcases h.frames f' hf' with ⟨f, hf, hid, hdialog⟩ | hfresh
    · exact .inl ⟨f, hf, hid.trans hid', hdialog.trans hdialog'⟩
    · exact .inr (hid' ▸ hfresh)
  · exact .inr (Nat.le_trans h.nextFrame hfresh)

theorem later_of_forall {st st' : Stack} (hnext : st.nextFrame ≤ st'.nextFrame)
    (h : ∀ f' ∈ st'.frames, f' ∈ st.frames ∨ f'.id = st.nextFrame) : st.Later st' :=
  ⟨hnext, fun f' hf' => (h f' hf').imp (fun hold => ⟨f', hold, rfl, rfl⟩) fun hfresh =>
    Nat.le_of_eq hfresh.symm⟩

theorem nextFrame_le_beginning (st : Stack) (dialog : String) (options : LaunchOptions) :
    st.nextFrame ≤ (st.beginning dialog options).1.nextFrame := by
  unfold beginning
  split
  · exact Nat.le_refl _
  · exact Nat.le_succ _

theorem nextFrame_le_replacing (st : Stack) (dialog : String) (options : LaunchOptions) :
    st.nextFrame ≤ (st.replacing dialog options).1.nextFrame := by
  unfold replacing
  split
  · exact Nat.le_refl _
  · split
    · exact nextFrame_le_beginning st dialog options
    · exact nextFrame_le_beginning (note { st with frames := _ } _) dialog options

theorem nextFrame_finishing (st : Stack) (result : Option DialogResult) :
    (st.finishing result).1.nextFrame = st.nextFrame := by
  unfold finishing
  split
  · rfl
  · split
    · rfl
    · split <;> rfl

end Stack

namespace Moment

theorem later_asked (m : Moment) (id : ℕ) (taken : Session) (r : Request)
    (next : r.Answer → Remainder) : m.stack.Later (m.asked id taken r next).stack := by
  refine Stack.later_of_forall ?_ fun f' hf' => mem_frames_asked hf'
  cases r with
  | send | active | note | seed | cancelAll => exact Nat.le_refl _
  | begin dialog options => exact m.stack.nextFrame_le_beginning dialog options
  | replace dialog options => exact m.stack.nextFrame_le_replacing dialog options
  | finish result => exact Nat.le_of_eq (m.stack.nextFrame_finishing result).symm

/-- **From one moment to the next**, numbers stay with their sessions. -/
theorem later_next {m m' : Moment} (hm : m.next? = some m') : m.stack.Later m'.stack := by
  cases step_of_next? hm with
  | @finish st K id taken o session =>
    have hnext : (finished ⟨st, .running id taken (.done (o, session)), K⟩ id o
        session).stack.nextFrame = st.nextFrame := by cases o <;> rfl
    refine ⟨Nat.le_of_eq hnext.symm, fun f' hf' => .inl ?_⟩
    rw [frames_finished] at hf'
    obtain ⟨g, hg, hid, hdialog, -⟩ := Stack.exists_of_mem_frames_store hf'
    exact ⟨g, hg, hid, hdialog⟩
  | ask id taken r next => exact later_asked _ id taken r next
  | missing | unregistered | enter | stop | resume | discard | answer =>
    exact Stack.later_of_frames_eq rfl rfl

theorem later_leads {m m' : Moment} (h : m.Leads m') : m.stack.Later m'.stack :=
  h.invariant (I := fun t => m.stack.Later t.stack) (.refl _) fun _ _ ht hstep =>
    ht.trans (later_next hstep)

end Moment

namespace Stack

variable {rounds : ℕ} {st st' : Stack}

theorem later_answer {r : Request} {a : r.Answer} (h : answer rounds r st = some (a, st')) :
    st.Later st' :=
  Moment.later_leads ((Moment.answersTrack rounds r st [] 0 default fun _ =>
    .done (.ok .waiting, default)).leads h)

theorem later_run {α : Type} {x : HostM α} {a : α}
    (h : HostM.run (answer rounds) x st = some (a, st')) : st.Later st' := by
  induction x generalizing st with
  | done value =>
    obtain ⟨-, rfl⟩ := Prod.mk.inj (Option.some.inj h)
    exact .refl st
  | ask r next ih =>
    obtain ⟨⟨b, st₁⟩, hanswer, h⟩ := Option.bind_eq_some_iff.1 h
    exact (later_answer hanswer).trans (ih b h)
  | abort => cases h

/-! ### Requests that concern no session -/

/-- The sessions of a stack, what they have given and what waits for them are those of another
one. -/
structure Undisturbed (st st' : Stack) : Prop where
  frames : st'.frames = st.frames
  results : st'.results = st.results
  pending : st'.pending = st.pending

theorem Undisturbed.refl (st : Stack) : st.Undisturbed st := ⟨rfl, rfl, rfl⟩

theorem Undisturbed.trans {st'' : Stack} (h : st.Undisturbed st') (h' : st'.Undisturbed st'') :
    st.Undisturbed st'' :=
  ⟨h'.frames.trans h.frames, h'.results.trans h.results, h'.pending.trans h.pending⟩

theorem Undisturbed.active? (h : st.Undisturbed st') : st'.active? = st.active? := by
  rw [Stack.active?, Stack.active?, top?, top?, h.frames]

theorem active?_eq_none_iff : st.active? = none ↔ st.frames = [] := by
  rw [active?, top?, Option.map_eq_none_iff, List.head?_eq_none_iff]

theorem undisturbed_answer {r : Request} (hr : r.IsPlain) {a : r.Answer}
    (h : answer rounds r st = some (a, st')) : st.Undisturbed st' := by
  cases r with
  | send | active | note | seed =>
    cases rounds <;>
    · obtain ⟨-, rfl⟩ := Prod.mk.inj (Option.some.inj h)
      exact ⟨rfl, rfl, rfl⟩
  | begin | replace | finish | cancelAll => exact hr.elim

end Stack

/-- A computation that hands nothing over leaves the sessions alone. -/
theorem Keeping.undisturbed {α : Type} {x : SessionM α} (hx : Keeping x) {rounds : ℕ}
    {s s' : Session} {st st' : Stack} {o : Except DialogError α}
    (h : runWith (Stack.answer rounds) x s st = some ((o, s'), st')) : st.Undisturbed st' := by
  have htree := hx s
  unfold runWith at h
  generalize x.run.run s = tree at htree h
  induction htree generalizing st with
  | done value =>
    obtain ⟨-, rfl⟩ := Prod.mk.inj (Option.some.inj h)
    exact .refl st
  | plain hr _ ih =>
    obtain ⟨⟨b, st₁⟩, hanswer, h⟩ := Option.bind_eq_some_iff.1 h
    exact (Stack.undisturbed_answer hr hanswer).trans (ih b h)
  | begin _ _ _ hv | replace _ _ _ hv | finish _ _ hv => exact hv.elim
  | abort => cases h

/-! ### What a run does itself -/

/-- Callbacks are called at a spot. -/
def Spot.Calls : Spot → Prop
  | entering .. | announcing .. | handling .. => True
  | starting _ | arriving .. | settling .. | selecting .. | checking .. | performing ..
  | dispatching .. | closing | parting _ | returned _ => False

instance : DecidablePred Spot.Calls := fun spot => by
  cases spot <;> unfold Spot.Calls <;> infer_instance

namespace Dialog

variable {d : Dialog}

theorem keeping_ofFlow (budget : ℕ) (flow : Flow) : Keeping (Spot.ofFlow budget flow) := by
  cases flow with
  | stop | jump => exact .pure _
  | advance => exact .bind_of_keeping .get fun _ => .pure _

theorem keeping_ofAction (budget : ℕ) (cursor : Location) (action : Option Action) :
    Keeping (Spot.ofAction budget cursor action) := by
  cases action with
  | some action => exact .pure _
  | none => exact keeping_ofFlow budget .advance

theorem keeping_ofSettled (budget : ℕ) (lines : List Line) (cursor : Location)
    (settled : Option Flow) : Keeping (Spot.ofSettled budget lines cursor settled) := by
  cases settled with
  | none => exact .pure _
  | some flow => exact keeping_ofFlow budget flow

theorem keeping_ofDispatched (budget : ℕ) (cursor : Location) (flow : Option Flow)
    (handled : Option (List Line)) : Keeping (Spot.ofDispatched budget cursor flow handled) := by
  cases handled with
  | none => exact keeping_ofFlow budget _
  | some lines => exact keeping_ofSettled budget lines cursor flow

theorem keeping_resuming (d : Dialog) (input : Option TurnInput) : Keeping (d.resuming input) := by
  refine .bind_of_keeping .get fun s => ?_
  split
  · exact .bind_of_keeping (.set _) fun _ => .pure _
  · exact .abort

theorem keeping_dispatch (d : Dialog) (cursor : Location) {action : Action}
    (hending : action.ending? = none) (hexecute : ∀ execute, action ≠ .executeScript execute)
    (hbegin : ∀ execute, action ≠ .beginDialog execute) : Keeping (d.dispatch cursor action) := by
  refine .bind_of_keeping (.note _) fun _ => ?_
  cases action with
  | complete | stop | timeout => cases hending
  | next | repeatLine => exact .pure _
  | wait => exact .bind_of_keeping (.modify _) fun _ => .pure _
  | executeScript execute => exact absurd rfl (hexecute execute)
  | beginDialog execute => exact absurd rfl (hbegin execute)
  | thread name =>
    dsimp only
    split
    · exact .pure _
    · exact .bind_of_keeping (.note _) fun _ => .pure _

/-- With an action that concerns another session, a run is over. -/
theorem brings_returned_of_handover (d : Dialog) {budget : ℕ} {cursor : Location} {action : Action}
    {handled : Option (List Line)}
    (h : ∃ execute, action = .executeScript execute ∨ action = .beginDialog execute) :
    Brings (d.stride (.dispatching budget cursor action handled))
      (· = .returned (.ok .waiting)) := by
  have hdispatch : Brings (d.dispatch cursor action) (· = some (.stop .waiting)) := by
    obtain ⟨execute, rfl | rfl⟩ := h <;>
      exact .andThen _ fun _ => .andThen _ fun _ => .andThen _ fun _ => .pure rfl
  have hending : action.ending? = none := by
    obtain ⟨execute, rfl | rfl⟩ := h <;> rfl
  rw [stride]
  simp only [hending]
  refine hdispatch.bind fun flow hflow => ?_
  subst hflow
  cases handled <;> exact .pure rfl

/-- **What a run does itself** leaves the sessions alone: where no callbacks are called and the
dialog does not end, a stride keeps the turn, or the run is over with it. -/
theorem keeping_stride (d : Dialog) {spot : Spot} (hcalls : ¬spot.Calls)
    (hclosing : spot ≠ .closing) (hparting : ∀ result, spot ≠ .parting result) :
    Keeping (d.stride spot) ∨ Brings (d.stride spot) (· = .returned (.ok .waiting)) := by
  cases spot with
  | entering | announcing | handling => exact absurd trivial hcalls
  | closing => exact absurd rfl hclosing
  | parting result => exact absurd rfl (hparting result)
  | starting task =>
    refine .inl ?_
    cases task with
    | begin =>
      refine .bind_of_keeping (.modify _) fun _ => ?_
      cases d.options.seed with
      | some seed =>
        exact .bind_of_keeping (.pure _) fun _ => .bind_of_keeping (.modify _) fun _ =>
          .bind_of_keeping .get fun _ => .pure _
      | none =>
        exact .bind_of_keeping .seed fun _ => .bind_of_keeping (.modify _) fun _ =>
          .bind_of_keeping .get fun _ => .pure _
    | resume input => exact d.keeping_resuming input
    | continueWith activity =>
      rw [stride]
      split
      · exact d.keeping_resuming _
      · exact .pure _
  | arriving budget cursor input =>
    refine .inl ?_
    cases budget with
    | zero => exact .bind_of_keeping .get fun _ => .throw _
    | succ budget =>
      refine .bind_of_keeping (.modify _) fun _ => ?_
      split
      · exact .throw _
      · split <;> exact .pure _
  | settling budget lines p =>
    refine .inl ?_
    rw [stride]
    split
    · split
      · exact .pure _
      · exact .bind_of_keeping (.modify _) fun _ => .pure _
    · exact .pure _
  | selecting budget lines p answer collect =>
    refine .inl ?_
    rw [stride]
    split
    · exact .pure _
    · split
      · exact .pure _
      · split <;> exact .pure _
  | checking budget lines cursor =>
    refine .inl (.bind_of_keeping .active fun active => ?_)
    split
    · exact .pure _
    · split <;> exact .pure _
  | performing budget cursor line =>
    refine .inl ?_
    cases line with
    | question message collect =>
      exact .bind_of_keeping (d.keeping_prompt message) fun flow => keeping_ofFlow budget flow
    | message message action =>
      rw [stride]
      split
      · exact .bind_of_keeping (keeping_emit message) fun _ => keeping_ofAction budget cursor action
      · split
        · exact .bind_of_keeping (.note _) fun _ => keeping_ofAction budget cursor action
        · exact keeping_ofAction budget cursor action
    | action action => exact keeping_ofAction budget cursor (some action)
    | childDialog execute collect => exact keeping_ofAction budget cursor (some _)
    | next => exact keeping_ofFlow budget .advance
  | dispatching budget cursor action handled =>
    by_cases hhandover : ∃ execute, action = .executeScript execute ∨ action = .beginDialog execute
    · exact .inr (d.brings_returned_of_handover hhandover)
    · refine .inl ?_
      rw [stride]
      split
      · exact .bind_of_keeping (.note _) fun _ => .bind_of_keeping (.modify _) fun _ => .pure _
      case h_2 hending =>
        refine .bind_of_keeping (d.keeping_dispatch cursor hending ?_ ?_) fun flow =>
          keeping_ofDispatched budget cursor flow handled
        · exact fun execute h => hhandover ⟨execute, .inl h⟩
        · exact fun execute h => hhandover ⟨execute, .inr h⟩
  | returned outcome => exact .inl (.pure _)

section

variable {rounds : ℕ} {t t' : Stage Stack}

theorem later_of_next? (h : d.next? (Stack.answer rounds) t = some t') :
    t.host.Later t'.host := by
  obtain ⟨o, hrun, -⟩ := exists_runWith_of_next? h
  exact Stack.later_run hrun

/-- Between the calls of its callbacks, a run that goes on and does not end its dialog leaves the
sessions alone. -/
theorem undisturbed_of_next? (h : d.next? (Stack.answer rounds) t = some t')
    (hcalls : ¬t.spot.Calls) (hclosing : t.spot ≠ .closing)
    (hparting : ∀ result, t.spot ≠ .parting result)
    (hreturned : ∀ outcome, t'.spot ≠ .returned outcome) :
    t.host.Undisturbed t'.host := by
  obtain ⟨o, hrun, hspot⟩ := exists_runWith_of_next? h
  -- a stride that begins another dialog does not count: the run is over with it
  rcases d.keeping_stride hcalls hclosing hparting with hkeeping | hbrings
  · exact hkeeping.undisturbed hrun
  · cases o with
    | ok spot =>
      obtain rfl := hbrings.runWith trivial hrun
      exact absurd hspot (hreturned _)
    | error e => exact absurd hspot (hreturned _)

/-- **When the callback of a handler has returned**, a run goes on where it stands if no dialog is
left.  If one is left, it is the one that was active before, or the run is over. -/
theorem after_handling {budget : ℕ} {lines : List Line} {p : Pass} {callback : HandlerCallback}
    {s : Session} {st : Stack}
    (h : d.next? (Stack.answer rounds) ⟨.handling budget lines p callback, s, st⟩ = some t')
    (hok : ∀ e, t'.spot ≠ .returned (.error e)) :
    (t'.host.frames = [] → t'.spot = .checking budget lines p.cursor) ∧
      (t'.host.frames ≠ [] →
        t'.host.active? = st.active? ∨ t'.spot = .returned (.ok .waiting)) := by
  obtain ⟨spot', s', st'⟩ := t'
  obtain ⟨o, hrun, hreached⟩ := exists_runWith_of_next? h
  cases o with
  | error e => exact absurd hreached (hok e)
  | ok spot =>
    obtain rfl : spot' = spot := hreached
    obtain ⟨flow, s₃, st₃, hhandle, hflow⟩ := exists_of_runWith_bind hrun
    -- the handler looks who is active, calls back, and looks again
    obtain ⟨active, s₀, st₀, hactive, hrest⟩ := exists_of_runWith_bind hhandle
    cases (runOn_active s st).symm.trans hactive
    obtain ⟨moved, s₁, st₁, -, hrest⟩ := exists_of_runWith_bind hrest
    obtain ⟨current, s₂, st₂, hcurrent, hrest⟩ := exists_of_runWith_bind hrest
    cases (runOn_active s₁ st₁).symm.trans hcurrent
    have hkept : st₃.Undisturbed st' :=
      (keeping_ofSettled budget lines p.cursor flow).undisturbed hflow
    cases hactive₁ : st₁.active? with
    | none =>
      simp only [hactive₁] at hrest
      cases hrest
      cases hflow
      exact ⟨fun _ => rfl, fun hne => absurd (Stack.active?_eq_none_iff.1 hactive₁) hne⟩
    | some current =>
      simp only [hactive₁] at hrest
      have hleft : st₁.Undisturbed st' → st'.frames ≠ [] := by
        intro hhere hnil
        have hnone := Stack.active?_eq_none_iff.2 hnil
        rw [hhere.active?, hactive₁] at hnone
        cases hnone
      split at hrest
      case isTrue =>
        -- another dialog is active
        obtain ⟨_, s₂, st₂, hnote, hstop⟩ := exists_of_runWith_bind hrest
        cases (runOn_note _ s₁ st₁).symm.trans hnote
        cases hstop
        cases hflow
        exact ⟨fun hnil => absurd hnil (hleft ⟨rfl, rfl, rfl⟩), fun _ => .inr rfl⟩
      case isFalse hsame =>
        have hhere : st₁.Undisturbed st' := by
          refine .trans ?_ hkept
          split at hrest <;> cases hrest <;> exact .refl _
        refine ⟨fun hnil => absurd hnil (hleft hhere), fun _ => .inl ?_⟩
        rw [hhere.active?, hactive₁]
        exact not_not.1 hsame

end

end Dialog

end Parley

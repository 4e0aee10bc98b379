import Parley.Dialog.Builder
import Parley.Proofs.Course.Turn

/-!
# Runs whose dialog is removed

A callback may remove all sessions, that of the run that has called it among them.  If it begins
nothing afterwards, no dialog is left, and the run is to stop: it is to call nothing more, send
nothing, and take its turn as complete.

A run only looks whether a dialog is active when it comes to a line, and when the callback of a
handler has returned.  So it stops at once behind the callback of a handler; behind hooks it does so
if nothing else comes before the next line (`Stack.cancelled_run_stops_iff`).  A handler that is
selected for the answer does come before it, and is called on behalf of a dialog that has been
removed (`Stack.handler_runs_after_cancel`).

* `HostM.requests` : what a computation asks of a host.
* `Stack.Cleared` : no session is left, and nothing waits.
* `Spot.Settles` : nothing else comes before the next line.
-/

namespace Parley

open Stepping StatefulAttempt

/-! ### Requests -/

namespace Request

/-- Whether all sessions have been removed and none has been begun since, after a request. -/
def clears (cleared : Bool) : Request → Bool
  | cancelAll => true
  | begin .. | replace .. => false
  | send _ | active | finish _ | note _ | seed => cleared

/-- One of some requests removes all sessions, and none after it begins a dialog. -/
def Cancel (requests : List Request) : Prop := requests.foldl clears false = true

instance : DecidablePred Cancel := fun _ => inferInstanceAs (Decidable (_ = _))

end Request

/-- The requests that a computation makes on a host, in order. -/
def HostM.requests {α η : Type} (host : (r : Request) → η → Option (r.Answer × η)) :
    HostM α → η → List Request
  | done _, _ | abort, _ => []
  | ask r next, w =>
    r :: match host r w with
      | none => []
      | some (answer, w') => requests host (next answer) w'

namespace Stack

/-- No session is left, and nothing waits for one. -/
structure Cleared (st : Stack) : Prop where
  frames : st.frames = []
  pending : st.pending = []

variable {rounds : ℕ} {st st' : Stack}

theorem Cleared.undisturbed (h : st.Cleared) (hst : st.Undisturbed st') : st'.Cleared :=
  ⟨hst.frames.trans h.frames, hst.pending.trans h.pending⟩

theorem Cleared.active? (h : st.Cleared) : st.active? = none := active?_eq_none_iff.2 h.frames

theorem answer_finish (h : st.Cleared) (result : Option DialogResult) :
    answer (rounds + 1) (.finish result) st = some (.ok .complete, st) := by
  simp only [answer, finishOn, h.frames]
  rfl

/-- What a request does to what is known of the sessions. -/
theorem cleared_answer {cleared : Bool} {r : Request} {a : r.Answer}
    (h : answer rounds r st = some (a, st')) (hst : cleared = true → st.Cleared)
    (hr : r.clears cleared = true) : st'.Cleared := by
  cases r with
  | send | active | note | seed =>
    exact (hst hr).undisturbed (undisturbed_answer (by trivial) h)
  | cancelAll =>
    have hst' : st' = st.cancelAll := by
      cases rounds <;>
      · obtain ⟨-, rfl⟩ := Prod.mk.inj (Option.some.inj h)
        rfl
    subst hst'
    exact ⟨rfl, rfl⟩
  | finish result =>
    cases rounds with
    | zero => cases h
    | succ rounds =>
      rw [answer_finish (hst hr)] at h
      cases h
      exact hst hr
  | begin | replace => cases hr

/-- **A computation that has removed all sessions and begun nothing since** leaves none behind, and
nothing that waits for one. -/
theorem cleared_run {α : Type} {x : HostM α} {cleared : Bool} {a : α}
    (h : HostM.run (answer rounds) x st = some (a, st')) (hst : cleared = true → st.Cleared)
    (hx : (x.requests (answer rounds) st).foldl Request.clears cleared = true) : st'.Cleared := by
  -- a request may clear the stack or stop it being clear, so the induction is for both
  induction x generalizing st cleared with
  | done value =>
    obtain ⟨-, rfl⟩ := Prod.mk.inj (Option.some.inj h)
    exact hst hx
  | ask r next ih =>
    obtain ⟨⟨b, st₁⟩, hanswer, h⟩ := Option.bind_eq_some_iff.1 h
    rw [HostM.requests, hanswer, List.foldl_cons] at hx
    exact ih b h (fun hr => cleared_answer hanswer hst hr) hx
  | abort => cases h

end Stack

/-! ### What may be done when no dialog is left -/

namespace Spot

variable (d : Dialog)

/-- Something is done at a spot that others may notice: callbacks are called, a line is carried out,
or an action is taken. -/
def Acts : Spot → Prop
  | entering _ _ p => d.hooks.beforeThread p.cursor.thread ≠ []
  | announcing _ _ _ _ _ key => d.hooks.onChange key ≠ []
  | handling .. | performing .. | dispatching .. => True
  | parting _ => d.hooks.after ≠ []
  | starting _ | arriving .. | settling .. | selecting .. | checking .. | closing
  | returned _ => False

instance : DecidablePred (Acts d)
  | entering _ _ p => inferInstanceAs (Decidable (d.hooks.beforeThread p.cursor.thread ≠ []))
  | announcing _ _ _ _ _ key => inferInstanceAs (Decidable (d.hooks.onChange key ≠ []))
  | handling .. | performing .. | dispatching .. => inferInstanceAs (Decidable True)
  | parting _ => inferInstanceAs (Decidable (d.hooks.after ≠ []))
  | starting _ | arriving .. | settling .. | selecting .. | checking .. | closing
  | returned _ => inferInstanceAs (Decidable False)

/-- Nothing but silent steps comes before the line that is next, and that line is there to come to:
no hooks run before it, and no handler does anything. -/
def Settles : Spot → Prop
  | arriving budget cursor _ =>
    0 < budget ∧ d.hasThread cursor.thread = true ∧
      (cursor.index = 0 → d.hooks.beforeThread cursor.thread = [])
  | selecting _ _ _ answer collect =>
    ∀ handler ∈ collect.select answer, handler.callback = none ∧ handler.action = none
  | starting _ | entering .. | settling .. | announcing .. | handling .. | checking ..
  | performing .. | dispatching .. | closing | parting _ | returned _ => True

instance : DecidablePred (Settles d)
  | arriving budget cursor _ =>
    inferInstanceAs (Decidable (0 < budget ∧ d.hasThread cursor.thread = true ∧
      (cursor.index = 0 → d.hooks.beforeThread cursor.thread = [])))
  | selecting _ _ _ answer collect =>
    inferInstanceAs (Decidable (∀ handler ∈ collect.select answer,
      handler.callback = none ∧ handler.action = none))
  | starting _ | entering .. | settling .. | announcing .. | handling .. | checking ..
  | performing .. | dispatching .. | closing | parting _
  | returned _ => inferInstanceAs (Decidable True)

/-- A run is over because something has failed. -/
def Failed : Spot → Prop
  | returned (.error _) => True
  | returned (.ok _) | starting _ | arriving .. | entering .. | settling .. | announcing ..
  | selecting .. | handling .. | checking .. | performing .. | dispatching .. | closing
  | parting _ => False

instance : DecidablePred Failed
  | returned (.error _) => inferInstanceAs (Decidable True)
  | returned (.ok _) | starting _ | arriving .. | entering .. | settling .. | announcing ..
  | selecting .. | handling .. | checking .. | performing .. | dispatching .. | closing
  | parting _ => inferInstanceAs (Decidable False)

end Spot

namespace Dialog

variable {d : Dialog} {rounds budget : ℕ} {lines : List Line} {p : Pass} {cursor : Location}
  {s : Session} {st : Stack}

/-- What others may notice of a stage. -/
def act? {η : Type} (d : Dialog) (t : Stage η) : Option Spot :=
  if t.spot.Acts d then some t.spot else none

theorem act?_eq_none {η : Type} {t : Stage η} (h : ¬t.spot.Acts d) : d.act? t = none := if_neg h

/-- **A run ceases at once.**  It does nothing more that others may notice, and leaves the stack as
it is but for the log; its turn is complete. -/
structure Ceases (d : Dialog) (rounds : ℕ) (t final : Stage Stack) : Prop where
  silent : Shows (d.next? (Stack.answer rounds)) d.act? t [] final
  complete : final.spot = .returned (.ok .complete)
  host : ∃ log, final.host = { t.host with log := log }

theorem exists_ceases_of_next? {t t₁ : Stage Stack}
    (hnext : d.next? (Stack.answer rounds) t = some t₁) (hacts : ¬t.spot.Acts d)
    (hhost : ∃ log, t₁.host = { t.host with log := log })
    (h : ∃ final, d.Ceases rounds t₁ final) : ∃ final, d.Ceases rounds t final := by
  obtain ⟨final, hceases⟩ := h
  refine ⟨final, .skip (act?_eq_none hacts) hnext hceases.silent, hceases.complete, ?_⟩
  obtain ⟨log, hlog⟩ := hceases.host
  obtain ⟨log₁, hlog₁⟩ := hhost
  exact ⟨log, by rw [hlog, hlog₁]⟩

theorem not_ceases_of_next? {t t₁ : Stage Stack}
    (hnext : d.next? (Stack.answer rounds) t = some t₁)
    (h : t₁.spot.Acts d ∨ ∃ e, t₁.spot = .returned (.error e)) :
    ¬∃ final, d.Ceases rounds t final := by
  rintro ⟨final, hceases⟩
  obtain ⟨ws, hws, hshows⟩ := hceases.silent.exists_of_step hnext
  obtain ⟨-, rfl⟩ := List.append_eq_nil_iff.1 hws.symm
  rcases h with hacts | ⟨e, he⟩
  · obtain ⟨_, hcons⟩ := hshows.exists_cons (if_pos hacts)
    cases hcons
  · obtain ⟨spot, s, st⟩ := t₁
    obtain rfl : spot = .returned (.error e) := he
    obtain ⟨rfl, -⟩ := hshows.of_end rfl
    cases hceases.complete

/-! ### Stages without a dialog -/

theorem ceases_closing (h : st.Cleared) :
    ∃ final, d.Ceases (rounds + 1) ⟨.closing, s, st⟩ final := by
  have hnext : d.next? (Stack.answer (rounds + 1)) ⟨.closing, s, st⟩ =
      some ⟨.returned (.ok .complete), s.ended, st⟩ := by
    refine next?_of_runWith (fun _ h => by cases h) ?_
    refine (runWith_bind_of_ok rfl _).trans ?_
    refine (runWith_bind_of_ok (runOn_active s.ended st) _).trans ?_
    rw [h.active?]
    have hfinish : runWith (Stack.answer (rounds + 1)) (Attempt.finish none : SessionM TurnStatus)
        s.ended st = some ((.ok .complete, s.ended), st) := by
      rw [runWith_finish, Stack.answer_finish h]
      rfl
    exact (runWith_bind_of_ok hfinish _).trans rfl
  have hreturned : d.Ceases (rounds + 1) ⟨.returned (.ok .complete), s.ended, st⟩
      ⟨.returned (.ok .complete), s.ended, st⟩ := ⟨.nil rfl rfl, rfl, st.log, rfl⟩
  exact exists_ceases_of_next? hnext (fun h => h) ⟨st.log, rfl⟩ ⟨_, hreturned⟩

theorem ceases_checking (h : st.Cleared) :
    ∃ final, d.Ceases (rounds + 1) ⟨.checking budget lines cursor, s, st⟩ final := by
  have hnext : d.next? (Stack.answer (rounds + 1)) ⟨.checking budget lines cursor, s, st⟩ =
      some ⟨.closing, s, st⟩ := by
    refine next?_of_runWith (fun _ h => by cases h) ?_
    refine (runWith_bind_of_ok (runOn_active s st) _).trans ?_
    rw [h.active?]
    rfl
  exact exists_ceases_of_next? hnext (fun h => h) ⟨st.log, rfl⟩ (ceases_closing h)

theorem ceases_settling (h : st.Cleared)
    (hanswer : p.answer = none ∨ collectBefore lines p.cursor.index = none) :
    ∃ final, d.Ceases (rounds + 1) ⟨.settling budget lines p, s, st⟩ final := by
  have hstride : d.stride (.settling budget lines p) = pure (.checking budget lines p.cursor) := by
    rw [stride]
    rcases hanswer with hnone | hnone
    · rw [hnone]
    · rw [hnone]
      cases p.answer <;> rfl
  have hnext : d.next? (Stack.answer (rounds + 1)) ⟨.settling budget lines p, s, st⟩ =
      some ⟨.checking budget lines p.cursor, s, st⟩ :=
    next?_of_stride_eq_pure (fun _ h => by cases h) hstride
  exact exists_ceases_of_next? hnext (fun h => h) ⟨st.log, rfl⟩ (ceases_checking h)

/-- If no handler does anything, the line is next. -/
theorem ceases_selecting_iff (h : st.Cleared) {answer : Json} {collect : Collect} :
    (∃ final, d.Ceases (rounds + 1) ⟨.selecting budget lines p answer collect, s, st⟩ final) ↔
      (Spot.selecting budget lines p answer collect).Settles d := by
  have hnext {spot : Spot}
      (hstride : d.stride (.selecting budget lines p answer collect) = pure spot) :
      d.next? (Stack.answer (rounds + 1)) ⟨.selecting budget lines p answer collect, s, st⟩ =
        some ⟨spot, s, st⟩ := next?_of_stride_eq_pure (fun _ h => by cases h) hstride
  have hchecking (hstride : d.stride (.selecting budget lines p answer collect) =
      pure (.checking budget lines p.cursor)) :
      ∃ final, d.Ceases (rounds + 1) ⟨.selecting budget lines p answer collect, s, st⟩ final :=
    exists_ceases_of_next? (hnext hstride) (fun h => h) ⟨st.log, rfl⟩ (ceases_checking h)
  cases hselect : collect.select answer with
  | none =>
    refine iff_of_true (hchecking (by simp only [stride, hselect])) fun handler hh => ?_
    rw [hselect] at hh
    cases hh
  | some handler =>
    have hsettles : (Spot.selecting budget lines p answer collect).Settles d ↔
        handler.callback = none ∧ handler.action = none := by
      simp [Spot.Settles, hselect]
    rw [hsettles]
    cases hcallback : handler.callback with
    | some callback =>
      have hstride : d.stride (.selecting budget lines p answer collect) =
          pure (.handling budget lines p callback) := by
        simp only [stride, hselect, hcallback]
      exact iff_of_false (not_ceases_of_next? (hnext hstride) (.inl trivial)) fun hnone => by
        cases hnone.1
    | none =>
      cases haction : handler.action with
      | some action =>
        have hstride : d.stride (.selecting budget lines p answer collect) =
            pure (.dispatching budget p.cursor action (some lines)) := by
          simp only [stride, hselect, hcallback, haction]
        exact iff_of_false (not_ceases_of_next? (hnext hstride) (.inl trivial)) fun hnone => by
          cases hnone.2
      | none =>
        exact iff_of_true (hchecking (by simp only [stride, hselect, hcallback, haction]))
          ⟨rfl, rfl⟩

theorem ceases_entering (h : st.Cleared) (hhooks : d.hooks.beforeThread p.cursor.thread = [])
    (hanswer : p.answer = none) :
    ∃ final, d.Ceases (rounds + 1) ⟨.entering budget lines p, s, st⟩ final := by
  have hnext : d.next? (Stack.answer (rounds + 1)) ⟨.entering budget lines p, s, st⟩ =
      some ⟨.settling budget lines p, s, st.note (.enteringThread d.id p.cursor.thread)⟩ := by
    refine next?_of_runWith (fun _ h => by cases h) ?_
    have henter : runWith (Stack.answer (rounds + 1)) (d.enter p.cursor) s st =
        some ((.ok p.cursor, s), st.note (.enteringThread d.id p.cursor.thread)) := by
      unfold enter
      rw [hhooks]
      exact (runWith_bind_of_ok (runOn_note _ s st) _).trans rfl
    refine (runWith_bind_of_ok henter _).trans ?_
    rw [if_neg (not_not.2 rfl)]
    rfl
  have hnoted : (st.note (.enteringThread d.id p.cursor.thread)).Cleared := ⟨h.frames, h.pending⟩
  exact exists_ceases_of_next? hnext (fun hne => hne hhooks) ⟨_, rfl⟩
    (ceases_settling hnoted (.inl hanswer))

theorem ceases_arriving_iff (h : st.Cleared) :
    (∃ final, d.Ceases (rounds + 1) ⟨.arriving budget cursor none, s, st⟩ final) ↔
      (Spot.arriving budget cursor none).Settles d := by
  cases budget with
  | zero =>
    have hnext : d.next? (Stack.answer (rounds + 1)) ⟨.arriving 0 cursor none, s, st⟩ =
        some ⟨.returned (.error (.stepGuard d.id d.options.maxSteps s.location)), s, st⟩ := rfl
    exact iff_of_false (not_ceases_of_next? hnext (.inr ⟨_, rfl⟩)) fun h => absurd h.1 (by simp)
  | succ budget =>
    cases hlines : d.script.thread? cursor.thread with
    | none =>
      refine iff_of_false (not_ceases_of_next? (next?_arriving_of_thread?_eq_none hlines)
        (.inr ⟨_, rfl⟩)) fun hsettles => ?_
      have hthread : (d.script.thread? cursor.thread).isSome = true := hsettles.2.1
      rw [hlines] at hthread
      cases hthread
    | some lines =>
      have hnext : d.next? (Stack.answer (rounds + 1)) ⟨.arriving (budget + 1) cursor none, s, st⟩ =
          _ := next?_arriving hlines
      have hsettles : (Spot.arriving (budget + 1) cursor none).Settles d ↔
          (cursor.index = 0 → d.hooks.beforeThread cursor.thread = []) :=
        ⟨fun h => h.2.2, fun h => ⟨Nat.succ_pos _, congrArg Option.isSome hlines, h⟩⟩
      rw [hsettles]
      by_cases hindex : cursor.index = 0
      · rw [if_pos hindex] at hnext
        by_cases hhooks : d.hooks.beforeThread cursor.thread = []
        · exact iff_of_true (exists_ceases_of_next? hnext (fun h => h) ⟨st.log, rfl⟩
            (ceases_entering h hhooks rfl)) fun _ => hhooks
        · exact iff_of_false (not_ceases_of_next? hnext (.inl hhooks)) fun h => hhooks (h hindex)
      · rw [if_neg hindex] at hnext
        exact iff_of_true (exists_ceases_of_next? hnext (fun h => h) ⟨st.log, rfl⟩
          (ceases_settling h (.inl rfl))) fun h => absurd h hindex

/-! ### Behind a call of callbacks -/

/-- The requests that are made in a stride. -/
def requests {η : Type} (d : Dialog) (host : (r : Request) → η → Option (r.Answer × η))
    (t : Stage η) : List Request := ((d.stride t.spot).run.run t.session).requests host t.host

/-- If all sessions are removed in a stride and none is begun after that, none is left. -/
theorem cleared_of_next? {t t' : Stage Stack} (hnext : d.next? (Stack.answer rounds) t = some t')
    (hcancel : Request.Cancel (d.requests (Stack.answer rounds) t)) : t'.host.Cleared := by
  obtain ⟨o, hrun, -⟩ := exists_runWith_of_next? hnext
  exact Stack.cleared_run hrun (fun h => by cases h) hcancel

/-- **When callbacks have left no dialog**, their run ceases at once exactly if nothing else comes
before the next line. -/
theorem ceases_iff_settles {t t' : Stage Stack} (hplace : d.InPlace t) (hcalls : t.spot.Calls)
    (hnext : d.next? (Stack.answer (rounds + 1)) t = some t') (hok : ¬t'.spot.Failed)
    (hcleared : t'.host.Cleared) :
    (∃ final, d.Ceases (rounds + 1) t' final) ↔ t'.spot.Settles d := by
  have hok' : ∀ e, t'.spot ≠ .returned (.error e) := by
    intro e he
    rw [he] at hok
    exact hok trivial
  have hstep := (next_of_next? hnext).resolve_right fun ⟨e, he⟩ => hok' e he
  obtain ⟨spot, s, st⟩ := t
  obtain ⟨spot', s', st'⟩ := t'
  cases spot with
  | entering budget lines p =>
    obtain ⟨-, -, hindex⟩ := hplace.placed
    cases hstep with
    | entered =>
      -- there is no line before the first one that could have asked for an answer
      have hnone : collectBefore lines p.cursor.index = none := by rw [hindex]; rfl
      exact iff_of_true (ceases_settling hcleared (.inr hnone)) trivial
    | redirectedBefore => exact ceases_arriving_iff hcleared
  | announcing budget lines p answer collect key =>
    cases hstep with
    | announced => exact ceases_selecting_iff hcleared
    | redirectedChange => exact ceases_arriving_iff hcleared
  | handling budget lines p callback =>
    -- the one call behind which the run looks whether a dialog is active
    obtain rfl : spot' = .checking budget lines p.cursor :=
      (after_handling hnext hok').1 hcleared.frames
    exact iff_of_true (ceases_checking hcleared) trivial
  | _ => exact hcalls.elim

end Dialog

/-! ### Turns without a dialog -/

namespace Moment

/-- The dialog that is about to be begun, if one is. -/
def begun? (m : Moment) : Option String :=
  match m.phase with
  | .running _ _ (.ask (.begin dialog _) _) | .running _ _ (.ask (.replace dialog _) _) =>
    some dialog
  | _ => none

theorem cleared_asked {m : Moment} {id : ℕ} {taken : Session} {r : Request}
    {next : r.Answer → Remainder} (hphase : m.phase = .running id taken (.ask r next))
    (h : m.stack.Cleared) (hnone : m.begun? = none) :
    (m.asked id taken r next).stack.Cleared := by
  cases r with
  | send | active | note | seed => exact ⟨h.frames, h.pending⟩
  | cancelAll => exact ⟨rfl, rfl⟩
  | finish result =>
    simp only [asked, Stack.finishing, h.frames]
    exact h
  | begin | replace =>
    rw [begun?, hphase] at hnone
    cases hnone

/-- **From one moment to the next** no session is left, unless one is begun. -/
theorem cleared_next {m m' : Moment} (h : m.stack.Cleared) (hnone : m.begun? = none)
    (hm : m.next? = some m') : m'.stack.Cleared := by
  cases step_of_next? hm with
  | missing | unregistered | enter | stop | answer => exact ⟨h.frames, h.pending⟩
  | ask id taken r next => exact cleared_asked rfl h hnone
  | @resume st id _ _ _ hp | @discard st id _ _ _ hp =>
    have hpending : st.pending = [] := h.pending
    rw [hpending] at hp
    cases hp
  | @finish st K id taken o session =>
    have hframes : st.frames = [] := h.frames
    have hpending : st.pending = [] := h.pending
    refine ⟨?_, ?_⟩
    · rw [frames_finished, Stack.store, hframes, List.map_nil]
    · cases o with
      | ok status => exact hpending
      | error e =>
        show st.pending.filter _ = []
        rw [hpending, List.filter_nil]

end Moment

namespace Stack

theorem Cleared.status {st : Stack} (h : st.Cleared) : st.status = .complete := by
  rw [Stack.status, h.frames]
  rfl

/-- **Callbacks have removed all sessions and begun nothing since.**  No session is left.  Their run
ceases at once exactly if nothing else comes before the next line; then its turn is complete, the
stack stays empty until another run begins a dialog, and if no run waits the call has returned. -/
theorem cancelled_run_stops_iff {st : Stack} {c : Call} {m : Moment} (hm : Occurs c st m)
    {f : Frame} {d : Dialog} {begun : Stage Stack} (hbegun : RunBegins m f d begun) {rounds : ℕ}
    {t t' : Stage Stack} (hlead : Leads (d.next? (answer (rounds + 1))) begun t)
    (hcalls : t.spot.Calls) (hnext : d.next? (answer (rounds + 1)) t = some t')
    (hok : ¬t'.spot.Failed) (hcancel : Request.Cancel (d.requests (answer (rounds + 1)) t)) :
    t'.host.Cleared ∧ ((∃ final, d.Ceases (rounds + 1) t' final) ↔ t'.spot.Settles d) ∧
      ∀ final, d.Ceases (rounds + 1) t' final →
        let left := final.host.leave.store f.id final.session
        m.Leads (Moment.arrived m.suspended (.ok .complete, left)) ∧ left.Cleared ∧
          (m.suspended = [] → Returns c st (.ok (some .complete)) left) ∧
          ∀ o st', Shows Moment.next? Moment.begun?
              (Moment.arrived m.suspended (.ok .complete, left)) [] (Moment.arrived [] (o, st')) →
            st'.Cleared ∧ Returns c st (c.told o st') st' := by
  have hcleared := d.cleared_of_next? hnext hcancel
  have hiff := Dialog.ceases_iff_settles (hbegun.inPlace.leads hlead) hcalls hnext hok hcleared
  refine ⟨hcleared, hiff, fun final hfinal => ?_⟩
  have hends : Ends (d.next? (answer (rounds + 1))) begun final := by
    have hrest := hfinal.silent.ends
    exact ⟨(hlead.tail hnext).trans hrest.1, hrest.2⟩
  obtain ⟨log, hlog⟩ := hfinal.host
  have hleft : (final.host.leave.store f.id final.session).Cleared := by
    rw [hlog]
    exact ⟨by rw [store, leave, hcleared.frames, List.map_nil], hcleared.pending⟩
  have hlast : m.Leads (Moment.arrived m.suspended
      (.ok .complete, final.host.leave.store f.id final.session)) := by
    refine (hbegun.leads hends hfinal.complete).tail (Moment.next?_stopped_of_lookup_eq_none ?_)
    rw [hleft.pending]
    rfl
  refine ⟨hlast, hleft, fun hnone => ?_, fun o st' hshows => ⟨?_, ?_⟩⟩
  · rw [hnone] at hlast
    rw [← told_of_status_eq hleft.status c]
    exact hm.returns hlast
  · exact hshows.invariant_of_nil (I := fun t => t.stack.Cleared) hleft fun _ _ =>
      Moment.cleared_next
  · exact hm.returns (hlast.trans hshows.ends.1)

/-! ### A dialog that is removed when it is answered -/

/-- A dialog that asks for a name, and removes all sessions when it is told one. -/
def quitter (handlers : Handlers) : Dialog :=
  ((Dialog.empty "quitter" { seed := some 7 }).ask (.ofText "Name?") handlers
    (some ⟨"name", false⟩)).addChange "name" (Routine.change [.cancelAll])

/-- A handler that says something. -/
def speaking : Handlers := .callback (Routine.handler [.send "still here"])

/-- The stack on which the dialog has asked. -/
def quitterAsked (handlers : Handlers) : Stack :=
  (Stack.empty [("quitter", quitter handlers)] fun _ => 0).behind 2 (.start "quitter" {})

/-- The answer. -/
def ada : Activity := .message "web" "c" "u" "Ada"

/-- The stage at which a run of the dialog begins when the answer comes in, for a session. -/
def quitterBegun (handlers : Handlers) (f : Frame) : Stage Stack :=
  ⟨.starting (.continueWith ada), f.session, (quitterAsked handlers).enter f.id⟩

/-- The moment at which the run begins. -/
def quitterMoment (handlers : Handlers) (f : Frame) : Moment :=
  ⟨quitterAsked handlers, .entering f.id (·.continueWith ada), []⟩

theorem occurs_quitter {handlers : Handlers} {f : Frame}
    (hf : (quitterAsked handlers).top? = some f) :
    Occurs (.continueTurn ada) (quitterAsked handlers) (quitterMoment handlers f) :=
  ⟨_, by rw [Call.opening?, hf]; rfl, .refl _⟩

theorem runBegins_quitter {handlers : Handlers} {f : Frame}
    (hf : (quitterAsked handlers).top? = some f) (hdialog : f.dialog = "quitter") :
    RunBegins (quitterMoment handlers f) f (quitter handlers) (quitterBegun handlers f) := by
  have hfind : (quitterAsked handlers).dialogs.find "quitter" = .ok (quitter handlers) := rfl
  exact ⟨hf, hdialog ▸ hfind, .continueWith ada, rfl, nofun, rfl⟩

theorem cancelled_run_stops_quitter :
    ∃ f ∈ (quitterAsked (.options [])).top?, ∃ t t' final,
      Occurs (.continueTurn ada) (quitterAsked (.options [])) (quitterMoment (.options []) f) ∧
      RunBegins (quitterMoment (.options []) f) f (quitter (.options []))
        (quitterBegun (.options []) f) ∧
      Leads ((quitter (.options [])).next? (answer 3)) (quitterBegun (.options []) f) t ∧
      t.spot.Calls ∧ (quitter (.options [])).next? (answer 3) t = some t' ∧ ¬t'.spot.Failed ∧
      Request.Cancel ((quitter (.options [])).requests (answer 3) t) ∧
      (quitter (.options [])).Ceases 3 t' final ∧
      Returns (.continueTurn ada) (quitterAsked (.options [])) (.ok (some .complete))
        (final.host.leave.store f.id final.session) := by
  have hfacts : ∃ f ∈ (quitterAsked (.options [])).top?, f.dialog = "quitter" ∧
      ∃ t ∈ after ((quitter (.options [])).next? (answer 3)) 3 (quitterBegun (.options []) f),
      ∃ t' ∈ (quitter (.options [])).next? (answer 3) t, t.spot.Calls ∧ ¬t'.spot.Failed ∧
        Request.Cancel ((quitter (.options [])).requests (answer 3) t) ∧
        t'.spot.Settles (quitter (.options [])) := by
    decide +kernel
  obtain ⟨f, hf, hdialog, t, ht, t', ht', hcalls, hok, hcancel, hsettles⟩ := hfacts
  have hoccurs := occurs_quitter hf
  have hbegun := runBegins_quitter hf hdialog
  obtain ⟨-, hiff, hstops⟩ :=
    cancelled_run_stops_iff hoccurs hbegun ⟨3, ht⟩ hcalls ht' hok hcancel
  obtain ⟨final, hfinal⟩ := hiff.2 hsettles
  obtain ⟨-, -, hreturns, -⟩ := hstops final hfinal
  exact ⟨f, hf, t, t', final, hoccurs, hbegun, ⟨3, ht⟩, hcalls, ht', hok, hcancel, hfinal,
    hreturns rfl⟩

/-- **A handler runs on behalf of a dialog that has been removed.**  The hook on the answer has
removed all sessions.  Still the handler for the answer is called, and says something. -/
theorem handler_runs_after_cancel :
    ∃ f ∈ (quitterAsked speaking).top?, ∃ t t',
      Occurs (.continueTurn ada) (quitterAsked speaking) (quitterMoment speaking f) ∧
      RunBegins (quitterMoment speaking f) f (quitter speaking) (quitterBegun speaking f) ∧
      Leads ((quitter speaking).next? (answer 3)) (quitterBegun speaking f) t ∧ t.spot.Calls ∧
      (quitter speaking).next? (answer 3) t = some t' ∧ ¬t'.spot.Failed ∧
      Request.Cancel ((quitter speaking).requests (answer 3) t) ∧
      (¬∃ final, (quitter speaking).Ceases 3 t' final) ∧
      ((quitterAsked speaking).call 3 (.continueTurn ada)).map (fun x =>
          (x.1.toOption, x.2.depth, x.2.outbox.toList.map OutgoingMessage.text)) =
        some (some (some .complete), 0, ["Name?", "still here"]) := by
  have hfacts : ∃ f ∈ (quitterAsked speaking).top?, f.dialog = "quitter" ∧
      ∃ t ∈ after ((quitter speaking).next? (answer 3)) 3 (quitterBegun speaking f),
      ∃ t' ∈ (quitter speaking).next? (answer 3) t, t.spot.Calls ∧ ¬t'.spot.Failed ∧
        Request.Cancel ((quitter speaking).requests (answer 3) t) ∧
        ∃ t₁ ∈ (quitter speaking).next? (answer 3) t', t₁.spot.Acts (quitter speaking) := by
    decide +kernel
  obtain ⟨f, hf, hdialog, t, ht, t', ht', hcalls, hok, hcancel, t₁, ht₁, hacts⟩ := hfacts
  refine ⟨f, hf, t, t', occurs_quitter hf, runBegins_quitter hf hdialog, ⟨3, ht⟩, hcalls, ht', hok,
    hcancel, Dialog.not_ceases_of_next? ht₁ (.inl hacts), ?_⟩
  decide +kernel

end Stack

end Parley

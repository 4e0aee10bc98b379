import Parley.Proofs.Course.OnStack

/-!
# Strides that call nothing

Where there are no hooks and no callbacks, a stride of a run tells all that there is to tell: where
the run is next, what its session is then, and what the stack has been told.  Here are those
strides, spot by spot, on a stack that answers them in any number of rounds.
-/

namespace Parley

open Stepping StatefulAttempt

namespace Dialog

variable {d : Dialog} {budget rounds : ℕ} {lines : List Line} {p : Pass} {cursor : Location}
  {s : Session} {st : Stack}

/-- A session begins: it has the variables that it was launched with, and a state of random
choice. -/
theorem next?_starting_begin :
    d.next? (Stack.answer rounds) ⟨.starting .begin, s, st⟩ =
      some ⟨.arriving d.options.maxSteps ⟨s.thread, 0⟩ none,
        { s with
          values := s.options.values
          status := .running
          rngState := d.options.seed.getD (st.clock st.ticks) },
        { st with ticks := st.ticks + if d.options.seed.isNone then 1 else 0 }⟩ := by
  refine next?_of_runWith (fun _ h => by cases h) ?_
  refine (runWith_bind_of_ok rfl _).trans ?_
  cases d.options.seed with
  | some seed => rfl
  | none =>
    have hseed (s : Session) : runWith (Stack.answer rounds) (Attempt.seed : SessionM _) s st =
        some ((.ok (st.clock st.ticks), s), { st with ticks := st.ticks + 1 }) := by
      cases rounds <;> rfl
    exact (runWith_bind_of_ok (hseed _) _).trans rfl

theorem next?_starting_continueWith {η : Type} {host : (r : Request) → η → Option (r.Answer × η)}
    {w : η} {activity : Activity} (hmessage : activity.isMessage = true) (hs : s.HasNext) :
    d.next? host ⟨.starting (.continueWith activity), s, w⟩ =
      some ⟨.arriving d.options.maxSteps ⟨s.thread, s.resumePoint⟩ (some (.message activity)),
        { s with resumeIndex := none }, w⟩ := by
  refine next?_of_runWith (fun _ h => by cases h) ?_
  rw [runWith, stride, if_pos hmessage, run_resuming, if_pos hs]
  rfl

section

variable {η : Type} {host : (r : Request) → η → Option (r.Answer × η)} {w : η}

theorem next?_arriving_of_usedUp {input : Option TurnInput} :
    d.next? host ⟨.arriving 0 cursor input, s, w⟩ =
      some (Stage.final ((.error (.stepGuard d.id d.options.maxSteps s.location), s), w)) := rfl

theorem next?_settling_of_answer_eq_none (hanswer : p.answer = none) :
    d.next? host ⟨.settling budget lines p, s, w⟩ =
      some ⟨.checking budget lines p.cursor, s, w⟩ := by
  refine next?_of_stride_eq_pure (fun _ h => by cases h) ?_
  simp only [stride, hanswer]

theorem next?_announcing_of_onChange_eq_nil {answer : Json} {collect : Collect} {key : String}
    (hhooks : d.hooks.onChange key = []) :
    d.next? host ⟨.announcing budget lines p answer collect key, s, w⟩ =
      some ⟨.selecting budget lines p answer collect, s, w⟩ := by
  refine next?_of_stride_eq_pure (fun _ h => by cases h) ?_
  simp only [stride, announceChange, hhooks, pure_bind, ne_eq, not_true_eq_false, if_false]

theorem next?_selecting_of_action {answer : Json} {collect : Collect} {handler : Handler}
    {action : Action} (hselect : collect.select answer = some handler)
    (hcallback : handler.callback = none) (haction : handler.action = some action) :
    d.next? host ⟨.selecting budget lines p answer collect, s, w⟩ =
      some ⟨.dispatching budget p.cursor action (some lines), s, w⟩ := by
  refine next?_of_stride_eq_pure (fun _ h => by cases h) ?_
  simp only [stride, hselect, hcallback, haction]

theorem next?_parting_of_after_eq_nil {result : DialogResult} (hhooks : d.hooks.after = []) :
    d.next? host ⟨.parting result, s, w⟩ = some ⟨.returned (.ok .complete), s, w⟩ := by
  refine next?_of_stride_eq_pure (fun _ h => by cases h) ?_
  simp only [stride, announceEnd, hhooks, pure_bind]

end

theorem next?_entering_of_beforeThread_eq_nil
    (hhooks : d.hooks.beforeThread p.cursor.thread = []) :
    d.next? (Stack.answer rounds) ⟨.entering budget lines p, s, st⟩ =
      some ⟨.settling budget lines p, s, st.note (.enteringThread d.id p.cursor.thread)⟩ := by
  refine next?_of_runWith (fun _ h => by cases h) ?_
  have henter : runWith (Stack.answer rounds) (d.enter p.cursor) s st =
      some ((.ok p.cursor, s), st.note (.enteringThread d.id p.cursor.thread)) := by
    unfold enter
    rw [hhooks]
    exact (runWith_bind_of_ok (runOn_note _ s st) _).trans rfl
  refine (runWith_bind_of_ok henter _).trans ?_
  rw [if_neg (not_not.2 rfl)]
  rfl

/-- The line is carried out, if there is one, and else the dialog ends. -/
theorem next?_checking (hframes : st.frames ≠ []) :
    d.next? (Stack.answer rounds) ⟨.checking budget lines cursor, s, st⟩ =
      some ⟨match lines[cursor.index]? with
        | some line => .performing budget cursor line
        | none => .closing, s, st⟩ := by
  obtain ⟨active, hactive⟩ := Option.ne_none_iff_exists'.1 (mt Stack.active?_eq_none_iff.1 hframes)
  refine next?_of_runWith (fun _ h => by cases h) ?_
  refine (runWith_bind_of_ok (runOn_active s st) _).trans ?_
  rw [hactive, Option.isNone_some, if_neg Bool.false_ne_true]
  cases lines[cursor.index]? <;> rfl

/-- The session waits at the place where an answer is dealt with. -/
theorem next?_dispatching_wait :
    d.next? (Stack.answer rounds) ⟨.dispatching budget cursor .wait (some lines), s, st⟩ =
      some ⟨.returned (.ok .waiting), { s with resumeIndex := some cursor.index },
        st.note (.dispatchingAction d.id Action.wait.keyword)⟩ := by
  refine next?_of_runWith (fun _ h => by cases h) ?_
  have hdispatch : runWith (Stack.answer rounds) (d.dispatch cursor .wait) s st =
      some ((.ok (some (.stop .waiting)), { s with resumeIndex := some cursor.index }),
        st.note (.dispatchingAction d.id Action.wait.keyword)) :=
    (runWith_bind_of_ok (runOn_note _ s st) _).trans rfl
  exact (runWith_bind_of_ok hdispatch _).trans rfl

theorem next?_dispatching_repeatLine :
    d.next? (Stack.answer rounds) ⟨.dispatching budget cursor .repeatLine (some lines), s, st⟩ =
      some ⟨.arriving budget { cursor with index := cursor.index - 1 } none, s,
        st.note (.dispatchingAction d.id Action.repeatLine.keyword)⟩ := by
  refine next?_of_runWith (fun _ h => by cases h) ?_
  have hdispatch : runWith (Stack.answer rounds) (d.dispatch cursor .repeatLine) s st =
      some ((.ok (some (.jump { cursor with index := cursor.index - 1 })), s),
        st.note (.dispatchingAction d.id Action.repeatLine.keyword)) :=
    (runWith_bind_of_ok (runOn_note _ s st) _).trans rfl
  exact (runWith_bind_of_ok hdispatch _).trans rfl

end Dialog

end Parley

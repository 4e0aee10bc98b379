import Parley.Dialog.Builder
import Parley.Proofs.Course.Turn

/-!
# Which session an end takes off

When a dialog ends, the session on top of the stack is taken off, and the final values are recorded
as those of its dialog.  Nobody asks whether it is the session that has ended.  A run leaves the
stack alone but for what its hooks and handlers do, so it is their calls that decide: the session
that is taken off is the one that the last call has left on top, or the own one if there was no call
(`Stack.own_session_is_ended_iff`).

After the callback of a handler a run goes on only if no dialog is active or the same one as before,
so a handler cannot easily leave another session on top.  A hook can: a run does not look who is on
top when a hook has returned.  A dialog whose hook begins another one takes that one's session off
in its place (`Stack.hook_leaves_other_on_top`).

* `Dialog.called?` : a call of hooks or of a handler, with the host before it and behind it.
* `Dialog.OwnCourse.next` : between the calls the stack is as the last one has left it.
-/

namespace Parley

open Stepping StatefulAttempt

/-- A call of the callbacks at a spot, with the host before it and behind it. -/
structure Called (η : Type) where
  spot : Spot
  before : η
  after : η

namespace Called

/-- The stack that the last of some calls has left, or else the one before them. -/
def lastLeft (st : Stack) (calls : List (Called Stack)) : Stack :=
  (calls.getLast?.map Called.after).getD st

theorem lastLeft_concat (st : Stack) (calls : List (Called Stack)) (c : Called Stack) :
    lastLeft st (calls ++ [c]) = c.after := by
  rw [lastLeft, List.getLast?_concat, Option.map_some, Option.getD_some]

/-- If it is the callback of a handler that was called, then no dialog is active behind the call or
the same one as before it. -/
def Watched (c : Called Stack) : Prop :=
  ∀ budget lines p callback, c.spot = .handling budget lines p callback →
    c.after.frames = [] ∨ c.after.active? = c.before.active?

end Called

/-- A run is not over yet, and its dialog has not ended. -/
def Spot.Ongoing : Spot → Prop
  | parting _ | returned _ => False
  | starting _ | arriving .. | entering .. | settling .. | announcing .. | selecting ..
  | handling .. | checking .. | performing .. | dispatching .. | closing => True

namespace Dialog

variable {d : Dialog} {rounds : ℕ}

/-- The call of callbacks at a stage, if it is answered. -/
def called? {η : Type} (d : Dialog) (host : (r : Request) → η → Option (r.Answer × η))
    (t : Stage η) : Option (Called η) :=
  if t.spot.Calls then (d.next? host t).map fun t' => ⟨t.spot, t.host, t'.host⟩ else none

section

variable {t t' : Stage Stack}

/-- What goes on has not been over, nor about to end. -/
theorem ongoing_of_next? {η : Type} {host : (r : Request) → η → Option (r.Answer × η)}
    {t t' : Stage η} (h : d.next? host t = some t') (hongoing : t'.spot.Ongoing) :
    t.spot.Ongoing ∧ t.spot ≠ .closing := by
  rcases next_of_next? h with hnext | ⟨e, he⟩
  · obtain ⟨spot, session, w⟩ := t
    obtain ⟨spot', session', w'⟩ := t'
    cases hnext with
    | ended | removed | parted | ignore | handedOver | asked | stop => exact hongoing.elim
    | _ => exact ⟨trivial, fun h => by cases h⟩
  · rw [he] at hongoing
    exact hongoing.elim

theorem watched_of_next? (h : d.next? (Stack.answer rounds) t = some t')
    (hongoing : t'.spot.Ongoing) : Called.Watched ⟨t.spot, t.host, t'.host⟩ := by
  rintro budget lines p callback hspot
  obtain ⟨spot, s, st⟩ := t
  obtain rfl : spot = .handling budget lines p callback := hspot
  have hreturned : ∀ outcome, t'.spot ≠ .returned outcome := by
    intro outcome hreturned
    rw [hreturned] at hongoing
    exact hongoing.elim
  obtain ⟨-, hleft⟩ := after_handling h fun e => hreturned _
  by_cases hnil : t'.host.frames = []
  · exact .inl hnil
  · exact .inr ((hleft hnil).resolve_right (hreturned _))

/-! ### Between the calls -/

/-- What holds at a stage of a run, after some calls: until the dialog has ended, the sessions are
as the last call has left them. -/
structure OwnCourse (st : Stack) (calls : List (Called Stack)) (t : Stage Stack) : Prop where
  frames : t.spot.Ongoing → t.host.frames = (Called.lastLeft st calls).frames
  watched : t.spot.Ongoing → ∀ c ∈ calls, c.Watched

/-- **From one stage to the next**, the sessions are as the last call has left them. -/
theorem OwnCourse.next {st : Stack} {calls : List (Called Stack)} (h : OwnCourse st calls t)
    (hnext : d.next? (Stack.answer rounds) t = some t') :
    OwnCourse st (calls ++ (d.called? (Stack.answer rounds) t).toList) t' := by
  refine ⟨fun hongoing => ?_, fun hongoing => ?_⟩
  · obtain ⟨hbefore, hclosing⟩ := ongoing_of_next? hnext hongoing
    -- a call becomes the last one; anything else leaves the sessions alone
    by_cases hcalls : t.spot.Calls
    · rw [called?, if_pos hcalls, hnext, Option.map_some, Option.toList_some,
        Called.lastLeft_concat]
    · rw [called?, if_neg hcalls, Option.toList_none, List.append_nil, ← h.frames hbefore]
      refine (undisturbed_of_next? hnext hcalls hclosing ?_ ?_).frames
      · rintro result hparting
        rw [hparting] at hbefore
        exact hbefore.elim
      · rintro outcome hreturned
        rw [hreturned] at hongoing
        exact hongoing.elim
  · obtain ⟨hbefore, -⟩ := ongoing_of_next? hnext hongoing
    rintro c hc
    rcases List.mem_append.1 hc with hc | hc
    · exact h.watched hbefore c hc
    · by_cases hcalls : t.spot.Calls
      · rw [called?, if_pos hcalls, hnext, Option.map_some, Option.toList_some,
          List.mem_singleton] at hc
        subst hc
        exact watched_of_next? hnext hongoing
      · rw [called?, if_neg hcalls] at hc
        exact absurd hc List.not_mem_nil

theorem ownCourse_of_passes {begun : Stage Stack} {calls : List (Called Stack)}
    (h : Passes (d.next? (Stack.answer rounds)) (d.called? (Stack.answer rounds)) begun calls t) :
    OwnCourse begun.host calls t :=
  h.invariant (I := fun calls t => OwnCourse begun.host calls t)
    ⟨fun _ => rfl, fun _ _ hc => absurd hc List.not_mem_nil⟩ fun _ _ _ => OwnCourse.next

/-! ### The end -/

/-- What a run does when its dialog ends while one is active: it asks the host to end the active
dialog, with the final values of the own session. -/
theorem next?_closing {s : Session} {st : Stack} (hframes : st.frames ≠ []) :
    d.next? (Stack.answer rounds) ⟨.closing, s, st⟩ =
      (Stack.answer rounds (.finish (some s.ended.result))
        (st.note (.dialogEnded d.id s.ended.status))).map fun x =>
          Stage.reached ((x.1.map fun _ => .parting s.ended.result, s.ended), x.2) := by
  obtain ⟨active, hactive⟩ := Option.ne_none_iff_exists'.1 (mt Stack.active?_eq_none_iff.1 hframes)
  have hrun : runWith (Stack.answer rounds) (d.stride .closing) s st =
      (Stack.answer rounds (.finish (some s.ended.result))
        (st.note (.dialogEnded d.id s.ended.status))).map fun x =>
          ((x.1.map fun _ => .parting s.ended.result, s.ended), x.2) := by
    refine (runWith_bind_of_ok rfl _).trans ?_
    refine (runWith_bind_of_ok (runOn_active s.ended st) _).trans ?_
    rw [hactive]
    refine (runWith_bind_of_ok rfl _).trans ?_
    refine (runWith_bind_of_ok (runOn_note _ s.ended st) _).trans ?_
    rw [runWith_bind, runWith_finish]
    cases Stack.answer rounds (.finish (some s.ended.result))
      (st.note (.dialogEnded d.id s.ended.status)) with
    | none => rfl
    | some x =>
      obtain ⟨o, st'⟩ := x
      cases o <;> rfl
  have hnext : d.next? (Stack.answer rounds) ⟨.closing, s, st⟩ =
      (runWith (Stack.answer rounds) (d.stride .closing) s st).map Stage.reached :=
    next?_eq fun _ h => by cases h
  rw [hnext, hrun, Option.map_map]
  rfl

end

end Dialog

/-! ### The session that is taken off -/

namespace Stack

/-- What the end of a dialog does at once: the session on top is taken off, and a result is recorded
as that of its dialog. -/
structure TakesOff (st : Stack) (g : Frame) (result : DialogResult) (st' : Stack) : Prop where
  frames : st.frames = g :: st'.frames
  results : st'.results = st.results.push ⟨g.dialog, result⟩

theorem takesOff_finishing {st : Stack} {g : Frame} (hg : st.top? = some g)
    (result : DialogResult) : st.TakesOff g result (st.finishing (some result)).1 := by
  obtain ⟨rest, hframes⟩ := top?_eq_some_iff.1 hg
  unfold finishing
  simp only [hframes]
  cases rest with
  | nil => exact ⟨hframes, rfl⟩
  | cons parent rest =>
    by_cases hp : parent.id ∈ st.executing
    · simp only [hp, if_true]
      exact ⟨hframes, rfl⟩
    · simp only [hp, if_false]
      exact ⟨hframes, rfl⟩

/-- **The session that an end takes off is the own one exactly if the last call has left it on
top**, or if there was no call.  Then the final values are recorded as those of the own dialog. -/
theorem own_session_is_ended_iff {st : Stack} (h : st.Reachable) {c : Call} {m : Moment}
    (hm : Occurs c st m) {f : Frame} {d : Dialog} {begun : Stage Stack}
    (hbegun : RunBegins m f d begun) {rounds : ℕ} {calls : List (Called Stack)} {s : Session}
    {closing : Stack}
    (hpath : Passes (d.next? (answer rounds)) (d.called? (answer rounds)) begun calls
      ⟨.closing, s, closing⟩) {g : Frame} (hg : closing.top? = some g) :
    (∃ ending, closing.Undisturbed ending ∧
      d.next? (answer rounds) ⟨.closing, s, closing⟩ =
        (answer rounds (.finish (some s.ended.result)) ending).map (fun x =>
          Stage.reached ((x.1.map fun _ => .parting s.ended.result, s.ended), x.2)) ∧
      TakesOff ending g s.ended.result (ending.finishing (some s.ended.result)).1) ∧
    (g.id = f.id ↔ (Called.lastLeft begun.host calls).top?.map Frame.id = some f.id) ∧
    (g.id = f.id → g.dialog = f.dialog) ∧
    ∀ c ∈ calls, c.Watched := by
  have hcourse := Dialog.ownCourse_of_passes hpath
  obtain ⟨rest, hrest⟩ := top?_eq_some_iff.1 hg
  have htop : (closing.note (.dialogEnded d.id s.ended.status)).top? = some g := hg
  refine ⟨⟨closing.note (.dialogEnded d.id s.ended.status), ⟨rfl, rfl, rfl⟩,
    Dialog.next?_closing (hrest ▸ List.cons_ne_nil g rest), takesOff_finishing htop _⟩, ?_,
    fun hid => ?_, hcourse.watched trivial⟩
  · have hframes := hcourse.frames trivial
    rw [top?, ← hframes, hrest, List.head?_cons, Option.map_some, Option.some.injEq]
  · exact hbegun.dialog_eq h hm hpath.leads (mem_frames_of_top? hg) hid

/-! ### A hook that begins a dialog -/

/-- A dialog that begins another one before its first line, which says something. -/
def hooked (child : String) : Dialog :=
  ((Dialog.empty "hooked" { seed := some 7 }).say (.ofText "Hi.")).addBefore defaultThread
    (Routine.before [.begin child {}])

/-- An empty stack of the dialog, one that ends as soon as it begins, and one that asks
something. -/
def hookedStack (child : String) : Stack :=
  Stack.empty [("hooked", hooked child), ("silent", silent "silent"), ("asker", .asker "silent")]
    fun _ => 0

/-- The moment at which the session of the dialog is about to run. -/
def hookedMoment (child : String) : Moment :=
  Call.atOpening ((hookedStack child).beginning "hooked" {})

/-- The first stage of the run. -/
def hookedBegun (child : String) : Stage Stack :=
  ⟨.starting .begin, .launch {}, (hookedMoment child).stack.enter 1⟩

/-- The session and the stack when the dialog is to end, if it is so after a number of strides. -/
def hookedClosing (child : String) (strides : ℕ) : Option (Session × Stack) :=
  (after ((hooked child).next? (answer 3)) strides (hookedBegun child)).bind fun t =>
    match t.spot with
    | .closing => some (t.session, t.host)
    | _ => none

/-- The calls in a number of strides. -/
def hookedCalls (child : String) (strides : ℕ) : List (Called Stack) :=
  sights ((hooked child).next? (answer 3)) ((hooked child).called? (answer 3)) strides
    (hookedBegun child)

theorem occurs_hookedMoment (child : String) :
    Occurs (.start "hooked" {}) (hookedStack child) (hookedMoment child) := ⟨_, rfl, .refl _⟩

theorem runBegins_hooked (child : String) :
    RunBegins (hookedMoment child) ⟨1, "hooked", .launch {}⟩ (hooked child) (hookedBegun child) :=
  ⟨rfl, rfl, .begin, rfl, fun _ => ⟨{}, rfl⟩, rfl⟩

theorem passes_hooked {child : String} {strides : ℕ} {s : Session} {st : Stack}
    (h : hookedClosing child strides = some (s, st)) :
    Passes ((hooked child).next? (answer 3)) ((hooked child).called? (answer 3))
      (hookedBegun child) (hookedCalls child strides) ⟨.closing, s, st⟩ := by
  obtain ⟨⟨spot, s', st'⟩, hafter, hclosing⟩ := Option.bind_eq_some_iff.1 h
  cases spot with
  | closing =>
    obtain ⟨rfl, rfl⟩ := Prod.mk.inj (Option.some.inj hclosing)
    exact passes_of_after hafter
  | _ => cases hclosing

theorem own_session_is_ended_iff_silent :
    (hookedStack "silent").Reachable ∧
      Occurs (.start "hooked" {}) (hookedStack "silent") (hookedMoment "silent") ∧
      RunBegins (hookedMoment "silent") ⟨1, "hooked", .launch {}⟩ (hooked "silent")
        (hookedBegun "silent") ∧
      ∃ x ∈ hookedClosing "silent" 9, ∃ g ∈ x.2.top?,
        Passes ((hooked "silent").next? (answer 3)) ((hooked "silent").called? (answer 3))
          (hookedBegun "silent") (hookedCalls "silent" 9) ⟨.closing, x.1, x.2⟩ ∧
        g.id = 1 ∧ g.dialog = "hooked" := by
  have hclosing : ∃ x ∈ hookedClosing "silent" 9, ∃ g ∈ x.2.top?,
      (Called.lastLeft (hookedBegun "silent").host (hookedCalls "silent" 9)).top?.map Frame.id =
        some 1 := by
    decide +kernel
  obtain ⟨x, hx, g, hg, hleft⟩ := hclosing
  have hpasses := passes_hooked hx
  obtain ⟨-, hown, hdialog, -⟩ := own_session_is_ended_iff (.empty _ _)
    (occurs_hookedMoment "silent") (runBegins_hooked "silent") hpasses hg
  have hid := hown.2 hleft
  exact ⟨.empty _ _, occurs_hookedMoment _, runBegins_hooked _, x, hx, g, hg, hpasses, hid,
    hdialog hid⟩

/-- **A hook may leave another session on top, and a run does not notice.**  The hook of the dialog
has begun another one, which has asked something.  The dialog goes on and ends, and the session of
the other one is taken off; the result of the dialog is recorded as that of the other one. -/
theorem hook_leaves_other_on_top :
    Occurs (.start "hooked" {}) (hookedStack "asker") (hookedMoment "asker") ∧
      RunBegins (hookedMoment "asker") ⟨1, "hooked", .launch {}⟩ (hooked "asker")
        (hookedBegun "asker") ∧
      (∃ x ∈ hookedClosing "asker" 9, ∃ g ∈ x.2.top?,
        Passes ((hooked "asker").next? (answer 3)) ((hooked "asker").called? (answer 3))
          (hookedBegun "asker") (hookedCalls "asker" 9) ⟨.closing, x.1, x.2⟩ ∧
        g.id ≠ 1 ∧ g.dialog = "asker") ∧
      ((hookedStack "asker").call 3 (.start "hooked" {})).map (fun x =>
          (x.1.toOption, x.2.depth, x.2.results.toList.map Completed.dialog)) =
        some (some (some .complete), 0, ["asker", "hooked"]) := by
  have hclosing : ∃ x ∈ hookedClosing "asker" 9, ∃ g ∈ x.2.top?, g.id ≠ 1 ∧ g.dialog = "asker" := by
    decide +kernel
  obtain ⟨x, hx, g, hg, hid, hdialog⟩ := hclosing
  refine ⟨occurs_hookedMoment _, runBegins_hooked _, ⟨x, hx, g, hg, passes_hooked hx, hid, hdialog⟩,
    ?_⟩
  decide +kernel

end Stack

end Parley

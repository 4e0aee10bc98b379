import Parley.Proofs.Course.Deeds
import Parley.Proofs.Ending
import Parley.Routine

/-!
# When the hooks after the end are called

A dialog that ends first asks the stack to take its session off and to record the result; then the
hooks after the end are called.  But in answer to the first request the session below is resumed,
and all of its turn runs in between.  If that turn fails, so does the request, and the dialog that
has ended fails with it: the result is on record, and no hook is called.

So the hooks after the end are called, all of them and in order, exactly if no session below is
resumed or its turn does not fail (`Stack.hooks_follow_end_iff`).  A parent that goes on to a dialog
that does not exist cheats its child of its hooks (`Stack.failing_parent_skips_hooks`).

* `Stack.ResumeFails` : the session below is resumed with a result, and fails.
* `Stack.answer_finish_error_iff` : this is the only way in which a request to end a dialog fails.
-/

namespace Parley

open Stepping StatefulAttempt

namespace Deed

/-- The host is asked to end the dialog, or hooks after the end are called. -/
def ofEnd : Deed → Bool
  | finishes .. | after .. => true
  | arrives .. | before .. | captures .. | changes .. | handles _ | performs .. | dispatches .. =>
    false

end Deed

namespace Stack

variable {rounds : ℕ} {st left : Stack} {result : DialogResult} {e : DialogError}

/-! ### How an end fails -/

/-- The session below the top does not run any more, so it is resumed with the result of the one on
top, and its turn fails. -/
structure ResumeFails (rounds : ℕ) (st : Stack) (result : DialogResult) (e : DialogError)
    (left : Stack) : Prop where
  waits : ∃ f parent rest, st.frames = f :: parent :: rest ∧ parent.id ∉ st.executing
  fails : runTop (answer rounds) rounds (·.resume (some (.result result)))
    (st.finishing (some result)).1 = some (.error e, left)

theorem finishing_eq_drop {f parent : Frame} {rest : List Frame}
    (hframes : st.frames = f :: parent :: rest) (hwaits : parent.id ∉ st.executing) :
    (st.finishing (some result)).1 = st.drop f (parent :: rest) (some result) := by
  rw [finishing, hframes]
  simp only [hwaits, if_false]

/-- **A request to end a dialog fails only if the turn of the session below fails.** -/
theorem answer_finish_error_iff :
    answer (rounds + 1) (.finish (some result)) st = some (.error e, left) ↔
      st.ResumeFails rounds result e left := by
  have hanswer : answer (rounds + 1) (.finish (some result)) st =
      finishOn (answer rounds) rounds (some result) st := rfl
  rw [hanswer]
  constructor
  · intro h
    rw [finishOn] at h
    cases hframes : st.frames with
    | nil =>
      rw [hframes] at h
      cases h
    | cons f below =>
      cases below with
      | nil =>
        rw [hframes] at h
        cases h
      | cons parent rest =>
        by_cases hparent : parent.id ∈ st.executing
        · simp only [hframes, hparent, if_true] at h
          cases h
        · refine ⟨⟨f, parent, rest, hframes, hparent⟩, ?_⟩
          rw [finishing_eq_drop hframes hparent]
          simp only [hframes, hparent, if_false] at h
          exact h
  · rintro ⟨⟨f, parent, rest, hframes, hparent⟩, hfails⟩
    rw [finishing_eq_drop hframes hparent] at hfails
    simp only [finishOn, hframes, hparent, if_false]
    exact hfails

end Stack

namespace Dialog

variable {d : Dialog} {rounds : ℕ} {s : Session} {st : Stack}

/-! ### The course of an end -/

/-- What a run does when its dialog ends while one is active. -/
theorem runWith_ending (hframes : st.frames ≠ []) :
    runWith (Stack.answer rounds) d.ending s st =
      (Stack.answer rounds (.finish (some s.ended.result))
        (st.note (.dialogEnded d.id s.ended.status))).map fun x =>
          ((.ok (some s.ended.result, x.1), s.ended), x.2) := by
  obtain ⟨active, hactive⟩ := Option.ne_none_iff_exists'.1 (mt Stack.active?_eq_none_iff.1 hframes)
  refine (runWith_bind_of_ok rfl _).trans ?_
  refine (runWith_bind_of_ok (runOn_active s.ended st) _).trans ?_
  rw [hactive]
  refine (runWith_bind_of_ok rfl _).trans ?_
  refine (runWith_bind_of_ok (runOn_note _ s.ended st) _).trans ?_
  refine (runWith_map (askToFinish _) _ _ _).trans ?_
  rw [runWith_askToFinish, Option.map_map]
  rfl

theorem ofEnd_eq_false {η : Type} {host : (r : Request) → η → Option (r.Answer × η)} {t : Stage η}
    (hongoing : t.spot.Ongoing) (hclosing : t.spot ≠ .closing) {deed : Deed}
    (h : d.deed? host t = some deed) : deed.ofEnd = false := by
  have hdoes := does_of_deed? h
  generalize t.spot = spot at hongoing hclosing hdoes
  cases hdoes with
  | finishes => exact absurd rfl hclosing
  | after => exact hongoing.elim
  | _ => rfl

theorem ofEnd_eq_false_of_passes {begun t : Stage Stack} {earlier : List Deed}
    (h : Passes (d.next? (Stack.answer rounds)) (d.deed? (Stack.answer rounds)) begun earlier t)
    (hongoing : t.spot.Ongoing) : ∀ deed ∈ earlier, deed.ofEnd = false := by
  refine h.invariant
    (I := fun ds t => t.spot.Ongoing → ∀ deed ∈ ds, deed.ofEnd = false)
    (fun _ _ hdeed => absurd hdeed List.not_mem_nil) ?_ hongoing
  intro ds t t' hds hnext hongoing' deed hdeed
  obtain ⟨hongoing, hclosing⟩ := ongoing_of_next? hnext hongoing'
  rcases List.mem_append.1 hdeed with hdeed | hdeed
  · exact hds hongoing deed hdeed
  · exact ofEnd_eq_false hongoing hclosing (Option.mem_toList.1 hdeed)

theorem deed?_closing (hframes : st.frames ≠ []) :
    d.deed? (Stack.answer rounds) ⟨.closing, s, st⟩ =
      (Stack.answer rounds (.finish (some s.ended.result))
        (st.note (.dialogEnded d.id s.ended.status))).map fun x =>
          .finishes (some s.ended.result) x.1 := by
  show (runWith (Stack.answer rounds) d.ending s st).bind _ = _
  rw [runWith_ending hframes]
  cases Stack.answer rounds (.finish (some s.ended.result))
    (st.note (.dialogEnded d.id s.ended.status)) <;> rfl

/-- The rest of a run whose dialog the host has ended: the hooks after the end are called in one
step, and then the run is over. -/
theorem later_of_passes_parting {result : DialogResult} {later : List Deed}
    {o : Except DialogError TurnStatus} {s' : Session} {last : Stack}
    (h : Passes (d.next? (Stack.answer rounds)) (d.deed? (Stack.answer rounds))
      ⟨.parting result, s, st⟩ later ⟨.returned o, s', last⟩) :
    ∃ called, later = [.after called result] ∧
      (called = d.hooks.after ∧ o = .ok .complete ∨
        ∃ hook ∈ d.hooks.after, ∃ w e, o = .error e ∧
          HostM.run (Stack.answer rounds) (hook result).run w = some (.error e, last)) := by
  have hne : (⟨.parting result, s, st⟩ : Stage Stack) ≠ ⟨.returned o, s', last⟩ :=
    fun h => by cases h
  cases hparting : d.next? (Stack.answer rounds) ⟨.parting result, s, st⟩ with
  | none =>
    obtain ⟨hover, -⟩ := h.of_end hparting
    exact absurd hover hne
  | some t =>
    obtain ⟨rest, rfl, hlast⟩ := h.exists_of_step hne hparting
    obtain ⟨called, hafter, -, hcalled⟩ := exists_after_of_next? hparting
    have hend : ∃ outcome, t.spot = .returned outcome := by
      rcases hcalled with ⟨-, hspot⟩ | ⟨_, -, -, e, hspot, -⟩
      · exact ⟨_, hspot⟩
      · exact ⟨_, hspot⟩
    have hstop : d.next? (Stack.answer rounds) t = none := by
      obtain ⟨outcome, hspot⟩ := hend
      rw [next?, hspot]
    obtain ⟨rfl, rfl⟩ := hlast.of_end hstop
    rw [hafter]
    refine ⟨called, rfl, ?_⟩
    rcases hcalled with ⟨hall, hspot⟩ | ⟨hook, hmem, w, e, hspot, hfailed⟩
    · exact .inl ⟨hall, Spot.returned.inj hspot⟩
    · exact .inr ⟨hook, hmem, w, e, Spot.returned.inj hspot, hfailed⟩

/-- The rest of a run whose dialog ends while one is active: the host is asked to end the active
dialog, and if it does so the hooks after the end are called. -/
theorem later_of_passes_closing (hframes : st.frames ≠ []) {later : List Deed}
    {o : Except DialogError TurnStatus} {s' : Session} {last : Stack}
    (h : Passes (d.next? (Stack.answer rounds)) (d.deed? (Stack.answer rounds)) ⟨.closing, s, st⟩
      later ⟨.returned o, s', last⟩) :
    ∃ answered left, Stack.answer rounds (.finish (some s.ended.result))
        (st.note (.dialogEnded d.id s.ended.status)) = some (answered, left) ∧
      match answered with
      | .error e => later = [.finishes (some s.ended.result) (.error e)] ∧ o = .error e ∧
          last = left
      | .ok status => ∃ called, later = [.finishes (some s.ended.result) (.ok status),
            .after called s.ended.result] ∧
          (called = d.hooks.after ∧ o = .ok .complete ∨
            ∃ hook ∈ d.hooks.after, ∃ w e, o = .error e ∧
              HostM.run (Stack.answer rounds) (hook s.ended.result).run w =
                some (.error e, last)) := by
  have hnext : d.next? (Stack.answer rounds) ⟨.closing, s, st⟩ = _ := next?_closing hframes
  have hdeed : d.deed? (Stack.answer rounds) ⟨.closing, s, st⟩ = _ := deed?_closing hframes
  generalize Stack.answer rounds (.finish (some s.ended.result))
    (st.note (.dialogEnded d.id s.ended.status)) = x at hnext hdeed
  have hne : (⟨.closing, s, st⟩ : Stage Stack) ≠ ⟨.returned o, s', last⟩ := fun h => by cases h
  cases x with
  | none =>
    -- without an answer the run stops at its end
    cases h with
    | skip _ hstep | cons _ hstep =>
      rw [hnext] at hstep
      cases hstep
  | some x =>
    obtain ⟨answered, left⟩ := x
    refine ⟨answered, left, rfl, ?_⟩
    obtain ⟨rest, rfl, hrest⟩ := h.exists_of_step hne hnext
    rw [hdeed]
    cases answered with
    | error e =>
      obtain ⟨hover, rfl⟩ := hrest.of_end rfl
      cases hover
      exact ⟨rfl, rfl, rfl⟩
    | ok status =>
      obtain ⟨called, rfl, hcalled⟩ := later_of_passes_parting hrest
      exact ⟨called, rfl, hcalled⟩

end Dialog

namespace Stack

/-- The hooks after the end of a dialog never fail. -/
def HooksSucceed (rounds : ℕ) (d : Dialog) : Prop :=
  ∀ hook ∈ d.hooks.after, ∀ result st o st',
    HostM.run (answer rounds) (hook result).run st = some (o, st') → ∃ x, o = .ok x

/-- **The hooks after the end are called exactly if no session below is resumed or its turn does not
fail.**  The dialog has ended, and its session is taken off with its result on record in any case.
Then all hooks are called, once each and in order, with that result; or none is, and the failure of
the turn below is the failure of the run. -/
theorem hooks_follow_end_iff {st : Stack} (h : st.Reachable) {c : Call} {m : Moment}
    (hm : Occurs c st m) {f : Frame} {d : Dialog} {begun : Stage Stack}
    (hbegun : RunBegins m f d begun) {rounds : ℕ} (hhooks : HooksSucceed (rounds + 1) d)
    {earlier : List Deed} {s : Session} {closing : Stack}
    (hpath : Passes (d.next? (answer (rounds + 1))) (d.deed? (answer (rounds + 1))) begun earlier
      ⟨.closing, s, closing⟩) {g : Frame} (hg : closing.top? = some g) (hown : g.id = f.id)
    {later : List Deed} {o : Except DialogError TurnStatus} {s' : Session} {last : Stack}
    (hover : Passes (d.next? (answer (rounds + 1))) (d.deed? (answer (rounds + 1)))
      ⟨.closing, s, closing⟩ later ⟨.returned o, s', last⟩) :
    ∃ ending, closing.Undisturbed ending ∧
      TakesOff ending g s.ended.result (ending.finishing (some s.ended.result)).1 ∧
      g.dialog = f.dialog ∧ (∀ deed ∈ earlier, deed.ofEnd = false) ∧
      ((∃ status, later = [.finishes (some s.ended.result) (.ok status),
          .after d.hooks.after s.ended.result] ∧ o = .ok .complete) ↔
        ¬∃ e left, ending.ResumeFails rounds s.ended.result e left) ∧
      ∀ e left, ending.ResumeFails rounds s.ended.result e left →
        later = [.finishes (some s.ended.result) (.error e)] ∧ o = .error e ∧ last = left := by
  obtain ⟨below, hbelow⟩ := top?_eq_some_iff.1 hg
  obtain ⟨answered, left, hanswer, hlater⟩ :=
    Dialog.later_of_passes_closing (hbelow ▸ List.cons_ne_nil g below) hover
  have hundisturbed : closing.Undisturbed (closing.note (.dialogEnded d.id s.ended.status)) :=
    ⟨rfl, rfl, rfl⟩
  have hdialog : g.dialog = f.dialog :=
    hbegun.dialog_eq h hm hpath.leads (mem_frames_of_top? hg) hown
  have hearlier := Dialog.ofEnd_eq_false_of_passes hpath trivial
  have htop : (closing.note (.dialogEnded d.id s.ended.status)).top? = some g := hg
  refine ⟨_, hundisturbed, takesOff_finishing htop _, hdialog, hearlier, ?_, ?_⟩
  · cases answered with
    | error e =>
      obtain ⟨rfl, -, -⟩ := hlater
      refine ⟨fun ⟨status, hdeeds, _⟩ => ?_, fun hno => ?_⟩
      · cases hdeeds
      · exact absurd ⟨e, left, answer_finish_error_iff.1 hanswer⟩ hno
    | ok status =>
      obtain ⟨called, rfl, hcalled⟩ := hlater
      constructor
      · rintro - ⟨e, left', hfails⟩
        rw [answer_finish_error_iff.2 hfails] at hanswer
        cases hanswer
      · intro _
        rcases hcalled with ⟨rfl, ho⟩ | ⟨hook, hmem, w, e, -, hfailed⟩
        · exact ⟨status, rfl, ho⟩
        · obtain ⟨x, hx⟩ := hhooks hook hmem _ _ _ _ hfailed
          cases hx
  · intro e left' hfails
    obtain ⟨rfl, rfl⟩ := Prod.mk.inj
      (Option.some.inj (hanswer.symm.trans (answer_finish_error_iff.2 hfails)))
    exact hlater

/-! ### A parent that goes on to another dialog -/

/-- A dialog that asks for a name, and says goodbye when it has ended. -/
def guest : Dialog :=
  ((Dialog.empty "guest" { seed := some 7 }).ask (.ofText "Name?") (.options [])
    (some ⟨"name", false⟩)).addAfter (Routine.after [.send "Bye."])

/-- A dialog that begins the guest, and then another dialog. -/
def hostess (next : String) : Dialog :=
  ((Dialog.empty "hostess" { seed := some 7 }).addChildDialog "guest" none defaultThread).addAction
    (.beginDialog { script := next }) defaultThread

/-- The stack on which the guest has asked. -/
def guestAsked (next : String) : Stack :=
  (Stack.empty [("guest", guest), ("hostess", hostess next)] fun _ => 0).behind 3
    (.start "hostess" {})

/-- The answer. -/
def guestNamed : Activity := .message "web" "c" "u" "Ada"

/-- The moment at which the guest is about to run when the answer comes in. -/
def guestMoment (next : String) (f : Frame) : Moment :=
  ⟨guestAsked next, .entering f.id (·.continueWith guestNamed), []⟩

/-- The first stage of the run. -/
def guestBegun (next : String) (f : Frame) : Stage Stack :=
  ⟨.starting (.continueWith guestNamed), f.session, (guestAsked next).enter f.id⟩

theorem occurs_guest {next : String} {f : Frame} (hf : (guestAsked next).top? = some f) :
    Occurs (.continueTurn guestNamed) (guestAsked next) (guestMoment next f) :=
  ⟨_, by rw [Call.opening?, hf]; rfl, .refl _⟩

theorem runBegins_guest {next : String} {f : Frame} (hf : (guestAsked next).top? = some f)
    (hdialog : f.dialog = "guest") :
    RunBegins (guestMoment next f) f guest (guestBegun next f) := by
  have hfind : (guestAsked next).dialogs.find "guest" = .ok guest := rfl
  exact ⟨hf, hdialog ▸ hfind, .continueWith guestNamed, rfl, nofun, rfl⟩

theorem hooksSucceed_guest (rounds : ℕ) : HooksSucceed rounds guest := by
  intro hook hmem result st o st' hrun
  obtain rfl := List.mem_singleton.1 hmem
  have hsent : HostM.run (answer rounds) (Routine.after [.send "Bye."] result).run st =
      some (.ok (), { st with outbox := st.outbox.push (.ofText "Bye.") }) := by
    cases rounds <;> rfl
  obtain ⟨rfl, -⟩ := Prod.mk.inj (Option.some.inj (hrun.symm.trans hsent))
  exact ⟨(), rfl⟩

/-- A stage from which a dialog is to end. -/
def closing? (t : Stage Stack) : Option (Session × Stack) :=
  match t.spot with
  | .closing => some (t.session, t.host)
  | _ => none

/-- A stage at which a run is over. -/
def returned? (t : Stage Stack) : Option (Except DialogError TurnStatus × Session × Stack) :=
  match t.spot with
  | .returned o => some (o, t.session, t.host)
  | _ => none

/-- The session and the stack when the guest is to end. -/
def guestClosing (next : String) (f : Frame) : Option (Session × Stack) :=
  (after (guest.next? (answer 4)) 10 (guestBegun next f)).bind closing?

/-- What has come of the run after more strides. -/
def guestOver (strides : ℕ) (x : Session × Stack) :
    Option (Except DialogError TurnStatus × Session × Stack) :=
  (after (guest.next? (answer 4)) strides ⟨.closing, x.1, x.2⟩).bind returned?

theorem passes_guestClosing {next : String} {f : Frame} {x : Session × Stack}
    (h : guestClosing next f = some x) : ∃ earlier,
      Passes (guest.next? (answer 4)) (guest.deed? (answer 4)) (guestBegun next f) earlier
        ⟨.closing, x.1, x.2⟩ := by
  obtain ⟨⟨spot, s, st⟩, hafter, hclosing⟩ := Option.bind_eq_some_iff.1 h
  cases spot with
  | closing =>
    obtain rfl := Option.some.inj hclosing
    exact ⟨_, passes_of_after hafter⟩
  | _ => cases hclosing

theorem passes_guestOver {strides : ℕ} {x : Session × Stack}
    {y : Except DialogError TurnStatus × Session × Stack} (h : guestOver strides x = some y) :
    ∃ later, Passes (guest.next? (answer 4)) (guest.deed? (answer 4)) ⟨.closing, x.1, x.2⟩ later
      ⟨.returned y.1, y.2.1, y.2.2⟩ := by
  obtain ⟨⟨spot, s, st⟩, hafter, hover⟩ := Option.bind_eq_some_iff.1 h
  cases spot with
  | returned o =>
    obtain rfl := Option.some.inj hover
    exact ⟨_, passes_of_after hafter⟩
  | _ => cases hover

theorem guestAsked_reachable (next : String)
    (h : ((Stack.empty [("guest", guest), ("hostess", hostess next)] fun _ => 0).call 3
      (.start "hostess" {})).map (fun x => (x.1.toOption, x.2.outline)) =
        some (some (some .waiting), [("guest", []), ("hostess", [])])) :
    (guestAsked next).Reachable := .call (.empty _ _) (returns_behind h).1

theorem hooks_follow_end_iff_guest :
    ∃ f ∈ (guestAsked "guest").top?, ∃ x ∈ guestClosing "guest" f, ∃ g ∈ x.2.top?,
      ∃ y ∈ guestOver 2 x, ∃ earlier later,
        (guestAsked "guest").Reachable ∧
        Occurs (.continueTurn guestNamed) (guestAsked "guest") (guestMoment "guest" f) ∧
        RunBegins (guestMoment "guest" f) f guest (guestBegun "guest" f) ∧ HooksSucceed 4 guest ∧
        Passes (guest.next? (answer 4)) (guest.deed? (answer 4)) (guestBegun "guest" f) earlier
          ⟨.closing, x.1, x.2⟩ ∧ g.id = f.id ∧
        Passes (guest.next? (answer 4)) (guest.deed? (answer 4)) ⟨.closing, x.1, x.2⟩ later
          ⟨.returned y.1, y.2.1, y.2.2⟩ ∧
        ∃ status, later = [.finishes (some x.1.ended.result) (.ok status),
          .after guest.hooks.after x.1.ended.result] := by
  have hfacts : ∃ f ∈ (guestAsked "guest").top?, f.dialog = "guest" ∧
      ∃ x ∈ guestClosing "guest" f, ∃ g ∈ x.2.top?, g.id = f.id ∧
        ∃ y ∈ guestOver 2 x, y.1.toOption = some .complete := by
    decide +kernel
  obtain ⟨f, hf, hdialog, x, hx, g, hg, hown, y, hy, hok⟩ := hfacts
  have hreachable := guestAsked_reachable "guest" (by decide +kernel)
  have hbegun := runBegins_guest hf hdialog
  obtain ⟨earlier, hpath⟩ := passes_guestClosing hx
  obtain ⟨later, hover⟩ := passes_guestOver hy
  obtain ⟨ending, -, -, -, -, hiff, hfails⟩ := hooks_follow_end_iff hreachable (occurs_guest hf)
    hbegun (hooksSucceed_guest 4) hpath hg hown hover
  -- the run has not failed, so the turn below has not
  have hgood : ¬∃ e left, ending.ResumeFails 3 x.1.ended.result e left := by
    rintro ⟨e, left, hfail⟩
    obtain ⟨-, ho, -⟩ := hfails e left hfail
    rw [ho] at hok
    cases hok
  obtain ⟨status, hlater, -⟩ := hiff.2 hgood
  exact ⟨f, hf, x, hx, g, hg, y, hy, earlier, later, hreachable, occurs_guest hf, hbegun,
    hooksSucceed_guest 4, hpath, hown, hover, status, hlater⟩

/-- **A parent that fails cheats its child of its hooks.**  The guest has ended, and its result is
on record.  Its parent goes on to a dialog that does not exist and fails, and the guest does not say
goodbye. -/
theorem failing_parent_skips_hooks :
    ∃ f ∈ (guestAsked "nobody").top?, ∃ x ∈ guestClosing "nobody" f, ∃ g ∈ x.2.top?,
      ∃ y ∈ guestOver 1 x, ∃ earlier later,
        (guestAsked "nobody").Reachable ∧
        Occurs (.continueTurn guestNamed) (guestAsked "nobody") (guestMoment "nobody" f) ∧
        RunBegins (guestMoment "nobody" f) f guest (guestBegun "nobody" f) ∧
        HooksSucceed 4 guest ∧
        Passes (guest.next? (answer 4)) (guest.deed? (answer 4)) (guestBegun "nobody" f) earlier
          ⟨.closing, x.1, x.2⟩ ∧ g.id = f.id ∧
        Passes (guest.next? (answer 4)) (guest.deed? (answer 4)) ⟨.closing, x.1, x.2⟩ later
          ⟨.returned y.1, y.2.1, y.2.2⟩ ∧
        guest.hooks.after.length = 1 ∧ (∀ called result, Deed.after called result ∉ later) ∧
        ((guestAsked "nobody").call 4 (.continueTurn guestNamed)).map (fun z =>
            (z.1.toOption, z.2.results.toList.map Completed.dialog,
              z.2.outbox.toList.map OutgoingMessage.text)) =
          some (none, ["guest"], ["Name?"]) := by
  have hfacts : ∃ f ∈ (guestAsked "nobody").top?, f.dialog = "guest" ∧
      ∃ x ∈ guestClosing "nobody" f, ∃ g ∈ x.2.top?, g.id = f.id ∧
        ∃ y ∈ guestOver 1 x, y.1.toOption = none := by
    decide +kernel
  obtain ⟨f, hf, hdialog, x, hx, g, hg, hown, y, hy, hfailed⟩ := hfacts
  have hreachable := guestAsked_reachable "nobody" (by decide +kernel)
  obtain ⟨earlier, hpath⟩ := passes_guestClosing hx
  obtain ⟨later, hover⟩ := passes_guestOver hy
  obtain ⟨below, hbelow⟩ := top?_eq_some_iff.1 hg
  obtain ⟨answered, left, -, hlater⟩ :=
    Dialog.later_of_passes_closing (hbelow ▸ List.cons_ne_nil g below) hover
  have hnone : ∀ called result, Deed.after called result ∉ later := by
    cases answered with
    | error e =>
      obtain ⟨rfl, -, -⟩ := hlater
      intro called result hmem
      cases List.mem_singleton.1 hmem
    | ok status =>
      -- then all hooks would have been called, and the run would not have failed
      obtain ⟨called, -, ⟨-, ho⟩ | ⟨hook, hmem, w, e, -, hrun⟩⟩ := hlater
      · rw [ho] at hfailed
        cases hfailed
      · obtain ⟨_, ho⟩ := hooksSucceed_guest 4 hook hmem _ _ _ _ hrun
        cases ho
  refine ⟨f, hf, x, hx, g, hg, y, hy, earlier, later, hreachable, occurs_guest hf,
    runBegins_guest hf hdialog, hooksSucceed_guest 4, hpath, hown, hover, rfl, hnone, ?_⟩
  decide +kernel

end Stack

end Parley

import Mathlib.Data.Option.NAry
import Parley.Proofs.Conversation.Parking
import Parley.Proofs.Course.Turn

/-!
# Results taken for answers

When a dialog ends while the session below it runs, its result is deferred until that run is over.
By then the session may have come to a question.  It is resumed all the same, in the same turn and
behind the question, and the result is dealt with there as if it were the answer
(`Stack.asked_question_waits_iff`): it is kept under the key of the question, and offered to its
handlers.  Only if nothing has been deferred does the question wait for a reply.

So a dialog whose handler begins another one that ends at once has the next question it asks
answered by that one (`Stack.result_answers_question`).

* `Spot.taken?` : the answer that is dealt with, and what is done with it.
* `Dialog.shows_taken_resume` : what a run takes for an answer that resumes a session with an input.
-/

namespace Parley

open Stepping StatefulAttempt

namespace Spot

/-- The answer that is dealt with at a spot, and what is to be done with it. -/
def taken? : Spot → Option (Json × Collect)
  | settling _ lines p =>
    Option.map₂ Prod.mk p.answer (Dialog.collectBefore lines p.cursor.index)
  | starting _ | arriving .. | entering .. | announcing .. | selecting .. | handling ..
  | checking .. | performing .. | dispatching .. | closing | parting _ | returned _ => none

/-- What has come in has been dealt with, if anything has. -/
def Spent : Spot → Prop
  | starting _ => False
  | arriving _ _ input => input = none
  | entering _ _ p | settling _ _ p => p.input = none
  | announcing .. | selecting .. | handling .. | checking .. | performing .. | dispatching ..
  | closing | parting _ | returned _ => True

theorem Spent.taken?_eq_none {spot : Spot} (h : spot.Spent) : spot.taken? = none := by
  cases spot with
  | settling budget lines p =>
    have hnone : p.answer = none := by
      have hinput : p.input = none := h
      rw [Pass.answer, hinput, Option.bind_none]
    rw [taken?, hnone, Option.map₂_none_left]
  | _ => rfl

/-- Only one pass deals with what has come in. -/
theorem Next.spent {d : Dialog} {a b : Spot} (h : Next d a b)
    (ha : a.Spent ∨ ∃ budget lines p, a = .settling budget lines p) : b.Spent := by
  cases h with
  | begin =>
    rcases ha with ha | ⟨_, _, _, ha⟩
    · exact ha.elim
    · cases ha
  | enter | arrive | entered =>
    rcases ha with ha | ⟨_, _, _, ha⟩
    · exact ha
    · cases ha
  | redirectedBefore | redirectedChange | redirectedHandler | performed | jump => rfl
  | _ => trivial

end Spot

namespace Dialog

variable {d : Dialog} {η : Type} {host : (r : Request) → η → Option (r.Answer × η)}
  {t t' final : Stage η} {ws : List (Json × Collect)}

theorem spent_of_next? (hnext : d.next? host t = some t')
    (h : t.spot.Spent ∨ ∃ budget lines p, t.spot = .settling budget lines p) : t'.spot.Spent := by
  rcases next_of_next? hnext with hstep | ⟨e, he⟩
  · exact hstep.spent h
  · rw [he]
    trivial

/-- Once it has been dealt with, nothing more is taken for an answer. -/
theorem shows_taken_of_spent (hshows : Shows (d.next? host) (fun t => t.spot.taken?) t ws final)
    (h : t.spot.Spent) : ws = [] := by
  induction hshows with
  | nil => rfl
  | skip _ hstep _ ih => exact ih (spent_of_next? hstep (.inl h))
  | cons hseen =>
    rw [h.taken?_eq_none] at hseen
    cases hseen

/-- An answer that is taken is kept under the key of what has asked for it, and then it is announced
and offered to handlers. -/
theorem next?_of_taken {budget : ℕ} {lines : List Line} {p : Pass} {s : Session} {w : η}
    {answer : Json} {collect : Collect}
    (h : (Spot.settling budget lines p).taken? = some (answer, collect)) :
    d.next? host ⟨.settling budget lines p, s, w⟩ =
      some ⟨match collect.key with
        | none => .selecting budget lines p answer collect
        | some key => .announcing budget lines p answer collect key,
        { s with values := collect.keep answer s.values }, w⟩ := by
  obtain ⟨answer', collect', hanswer, hcollect, hpair⟩ := Option.map₂_eq_some_iff.1 h
  obtain ⟨rfl, rfl⟩ : answer' = answer ∧ collect' = collect := Prod.mk.inj hpair
  refine next?_of_runWith (fun _ h => by cases h) ?_
  rw [stride]
  simp only [Option.mem_def.1 hanswer, Option.mem_def.1 hcollect, Collect.keep]
  cases collect'.key <;> rfl

theorem shows_taken_settling {budget : ℕ} {lines : List Line} {p : Pass} {s : Session} {w : η}
    (hshows : Shows (d.next? host) (fun t => t.spot.taken?) ⟨.settling budget lines p, s, w⟩ ws
      final) : ws = (Spot.settling budget lines p).taken?.toList := by
  have hspent {t' : Stage η} (hnext : d.next? host ⟨.settling budget lines p, s, w⟩ = some t') :
      t'.spot.Spent := spent_of_next? hnext (.inr ⟨_, _, _, rfl⟩)
  cases hshows with
  | nil hseen =>
    rw [hseen]
    rfl
  | skip hseen hstep h | cons hseen hstep h =>
    rw [hseen, shows_taken_of_spent h (hspent hstep)]
    rfl

/-- What is taken for an answer at a place: an input, if the line before asks for one. -/
def takenAt (d : Dialog) (cursor : Location) (input : Option TurnInput) : Option (Json × Collect) :=
  Option.map₂ Prod.mk (input.bind TurnInput.response) (d.collectorAt cursor)

theorem taken?_settling {budget : ℕ} {cursor : Location} {lines : List Line}
    (hlines : d.script.thread? cursor.thread = some lines) (input : Option TurnInput) :
    (Spot.settling budget lines ⟨cursor, input⟩).taken? = d.takenAt cursor input := by
  have hcollector : d.collectorAt cursor = collectBefore lines cursor.index := by
    rw [collectorAt, hlines, Option.bind_some]
  rw [takenAt, hcollector]
  rfl

/-- Before the first line of a thread nothing has been asked. -/
theorem shows_taken_entering {budget : ℕ} {lines : List Line} {p : Pass} {s : Session} {w : η}
    (hshows : Shows (d.next? host) (fun t => t.spot.taken?) ⟨.entering budget lines p, s, w⟩ ws
      final) (hindex : p.cursor.index = 0) : ws = [] := by
  cases hshows with
  | nil => rfl
  | cons hseen => cases hseen
  | @skip _ t' _ _ _ hstep h =>
    obtain ⟨spot, s', w'⟩ := t'
    rcases next_of_next? hstep with hnext | ⟨e, he⟩
    · cases hnext with
      | entered =>
        -- there is an input, but no line before that asks for it
        rw [shows_taken_settling h, Spot.taken?, hindex, collectBefore, Option.map₂_none_right]
        rfl
      | redirectedBefore => exact shows_taken_of_spent h rfl
    · obtain rfl : spot = .returned (.error e) := he
      exact shows_taken_of_spent h trivial

/-- **What a pass takes for an answer** that has an input. -/
theorem shows_taken_arriving {budget : ℕ} {cursor : Location} {input : Option TurnInput}
    {s : Session} {w : η}
    (hshows : Shows (d.next? host) (fun t => t.spot.taken?)
      ⟨.arriving (budget + 1) cursor input, s, w⟩ ws final) :
    ws = (d.takenAt cursor input).toList := by
  cases hlines : d.script.thread? cursor.thread with
  | none =>
    obtain ⟨ws', rfl, hrest⟩ := hshows.exists_of_step
      (next?_arriving_of_thread?_eq_none hlines)
    rw [takenAt, collectorAt, hlines, Option.bind_none, Option.map₂_none_right,
      shows_taken_of_spent hrest trivial]
    rfl
  | some lines =>
    obtain ⟨ws', rfl, hrest⟩ := hshows.exists_of_step (next?_arriving hlines)
    by_cases hindex : cursor.index = 0
    · rw [if_pos hindex] at hrest
      have hnone : d.takenAt cursor input = none := by
        rw [takenAt, collectorAt, hlines, Option.bind_some, hindex, collectBefore,
          Option.map₂_none_right]
      rw [hnone, shows_taken_entering hrest hindex]
      rfl
    · rw [if_neg hindex] at hrest
      rw [shows_taken_settling hrest, taken?_settling hlines]

/-- **What is taken for an answer** by a run that resumes a session with an input. -/
theorem shows_taken_resume {input : Option TurnInput} {s : Session} {w : η}
    (hsteps : 0 < d.options.maxSteps) (hs : s.HasNext)
    (hshows : Shows (d.next? host) (fun t => t.spot.taken?) ⟨.starting (.resume input), s, w⟩ ws
      final) : ws = (d.takenAt ⟨s.thread, s.resumePoint⟩ input).toList := by
  have hnext : d.next? host ⟨.starting (.resume input), s, w⟩ =
      some ⟨.arriving d.options.maxSteps ⟨s.thread, s.resumePoint⟩ input,
        { s with resumeIndex := none }, w⟩ := by
    refine next?_of_runWith (fun _ h => by cases h) ?_
    rw [runWith, stride, run_resuming, if_pos hs]
    rfl
  obtain ⟨budget, hbudget⟩ := Nat.exists_eq_succ_of_ne_zero (Nat.ne_of_gt hsteps)
  obtain ⟨ws', rfl, hrest⟩ := hshows.exists_of_step hnext
  rw [hbudget] at hrest
  exact shows_taken_arriving hrest

/-! ### Questions that have been asked -/

theorem stands_of_asked {budget : ℕ} {cursor : Location} {message : Message} {collect : Collect}
    (hplace : d.InPlace t)
    (hquestion : t.spot = .performing budget cursor (.question message collect))
    (hnext : d.next? host t = some t') (hasked : t'.spot = .returned (.ok .waiting)) :
    t'.session.Stands cursor ∧ 0 < d.options.maxSteps ∧
      d.collectorAt ⟨cursor.thread, cursor.index + 1⟩ = some collect := by
  obtain ⟨spot, s, w⟩ := t
  obtain ⟨spot', s', w'⟩ := t'
  obtain rfl : spot = .performing budget cursor (.question message collect) := hquestion
  obtain rfl : spot' = .returned (.ok .waiting) := hasked
  obtain ⟨hbudget, lines, hlines, hline⟩ := hplace.placed
  refine ⟨?_, Nat.lt_of_le_of_lt (Nat.zero_le _) hbudget, ?_⟩
  · obtain ⟨o, hrun, hreached⟩ := exists_runWith_of_next? hnext
    cases o with
    | error e => cases hreached
    | ok spot =>
      exact (d.retains_question budget message collect).meets.runWith hplace.standsAt hrun
  · rw [collectorAt, hlines, Option.bind_some, collectBefore, hline]
    rfl

theorem shows_taken_of_stands {s : Session} {w : η} {cursor : Location} {collect : Collect}
    {input : Option TurnInput} (hstands : s.Stands cursor) (hsteps : 0 < d.options.maxSteps)
    (hcollector : d.collectorAt ⟨cursor.thread, cursor.index + 1⟩ = some collect)
    (hindex : cursor.index + 1 < Session.indexBound)
    (hshows : Shows (d.next? host) (fun t => t.spot.taken?) ⟨.starting (.resume input), s, w⟩ ws
      final) :
    ws = ((input.bind TurnInput.response).map fun answer => (answer, collect)).toList := by
  have hgoes := hstands.goesOnAt hindex
  rw [shows_taken_resume hsteps hgoes.hasNext hshows, hgoes.place_eq, takenAt, hcollector]
  cases input.bind TurnInput.response <;> rfl

end Dialog

namespace Stack

/-! ### Where a session stops -/

section

variable {left : Stack} {f : Frame} {status : TurnStatus} {K : List Suspended}

theorem top?_undefer (htop : left.top? = some f) :
    (left.undefer f.id).top?.map Frame.id = some f.id := congrArg (Option.map Frame.id) htop

theorem next?_stopped_eq_arrived_iff (htop : left.top? = some f) :
    Moment.next? ⟨left, .stopped f.id status, K⟩ = some (Moment.arrived K (.ok status, left)) ↔
      left.pending.lookup f.id = none := by
  refine ⟨fun hwaits => ?_, Moment.next?_stopped_of_lookup_eq_none⟩
  cases hlookup : left.pending.lookup f.id with
  | none => rfl
  | some input =>
    rw [Moment.next?_stopped_of_top hlookup (top?_undefer htop)] at hwaits
    have hphase := congrArg Moment.phase (Option.some.inj hwaits)
    cases hphase

/-- What has been deferred for the session on top begins another run of it. -/
theorem exists_runBegins_of_lookup (htop : left.top? = some f) {d : Dialog}
    (hfind : left.dialogs.find f.dialog = .ok d) {input : Option TurnInput}
    (hinput : left.pending.lookup f.id = some input) :
    ∃ m, Moment.next? ⟨left, .stopped f.id status, K⟩ = some m ∧
      RunBegins m f d
        ⟨.starting (.resume input), f.session, (left.undefer f.id).enter f.id⟩ :=
  ⟨_, Moment.next?_stopped_of_top hinput (top?_undefer htop),
    ⟨htop, hfind, .resume input, rfl, nofun, rfl⟩⟩

end

theorem top?_store_top {st : Stack} {g : Frame} (hg : st.top? = some g) (session : Session) :
    (st.store g.id session).top? = some { g with session := session } := by
  obtain ⟨rest, hrest⟩ := top?_eq_some_iff.1 hg
  rw [top?, store, hrest, List.map_cons, List.head?_cons, if_pos rfl]

theorem status_of_top {st : Stack} {g : Frame} (hg : st.top? = some g) : st.status = .waiting := by
  obtain ⟨rest, hrest⟩ := top?_eq_some_iff.1 hg
  rw [status, hrest]
  rfl

/-- **A question that has been asked waits for a reply exactly if nothing has been deferred** for
its session.  Then the outcome is handed on, and if no run waits the call has returned.  What has
been deferred is taken up in the same turn: the session is resumed with it behind the question, and
there it is taken for the answer, if it has one; the values of a result are one. -/
theorem asked_question_waits_iff {st : Stack} (h : st.Reachable) {c : Call} {m : Moment}
    (hm : Occurs c st m) {f : Frame} {d : Dialog} {begun : Stage Stack}
    (hbegun : RunBegins m f d begun) {rounds : ℕ} {t t' : Stage Stack}
    (hlead : Leads (d.next? (answer rounds)) begun t) {budget : ℕ} {cursor : Location}
    {message : Message} {collect : Collect}
    (hquestion : t.spot = .performing budget cursor (.question message collect))
    (hnext : d.next? (answer rounds) t = some t') (hasked : t'.spot = .returned (.ok .waiting))
    {g : Frame} (hg : t'.host.top? = some g) (hid : g.id = f.id) :
    let left := t'.host.leave.store f.id t'.session
    let stopped : Moment := ⟨left, .stopped f.id .waiting, m.suspended⟩
    m.Leads stopped ∧ left.top? = some ⟨f.id, f.dialog, t'.session⟩ ∧ t'.session.Stands cursor ∧
      (stopped.next? = some (Moment.arrived m.suspended (.ok .waiting, left)) ↔
        left.pending.lookup f.id = none) ∧
      (left.pending.lookup f.id = none → m.suspended = [] →
        Returns c st (.ok (some .waiting)) left) ∧
      ∀ input, left.pending.lookup f.id = some input → ∃ m' resumed,
        stopped.next? = some m' ∧ RunBegins m' ⟨f.id, f.dialog, t'.session⟩ d resumed ∧
          resumed.spot = .starting (.resume input) ∧ resumed.session = t'.session ∧
          (cursor.index + 1 < Session.indexBound → ∀ rounds' ws final,
            Shows (d.next? (answer rounds')) (fun t => t.spot.taken?) resumed ws final →
              ws = ((input.bind TurnInput.response).map
                fun answer => (answer, collect)).toList) := by
  intro left stopped
  have hends : Ends (d.next? (answer rounds)) begun t' := by
    refine ⟨hlead.tail hnext, ?_⟩
    rw [Dialog.next?, hasked]
  have hstopped : m.Leads stopped := hbegun.leads hends hasked
  obtain ⟨hstands, hsteps, hcollector⟩ :=
    Dialog.stands_of_asked (hbegun.inPlace.leads hlead) hquestion hnext hasked
  -- nobody else has taken the number of the session since its run has begun
  have hdialog : g.dialog = f.dialog :=
    hbegun.dialog_eq h hm (hlead.tail hnext) (mem_frames_of_top? hg) hid
  have htop : left.top? = some ⟨f.id, f.dialog, t'.session⟩ := by
    have hstore : (t'.host.leave.store g.id t'.session).top? = _ := top?_store_top hg t'.session
    rw [hid] at hstore
    rw [hstore, ← hid, ← hdialog]
  have hfind : left.dialogs.find f.dialog = .ok d := by
    have hdialogs : left.dialogs = m.stack.dialogs := Moment.dialogs_leads hstopped
    rw [hdialogs]
    exact hbegun.find
  refine ⟨hstopped, htop, hstands,
    next?_stopped_eq_arrived_iff (f := ⟨f.id, f.dialog, t'.session⟩) htop,
    fun hnone hempty => ?_, fun input hinput => ?_⟩
  · have hlast := hstopped.tail (Moment.next?_stopped_of_lookup_eq_none hnone)
    rw [hempty] at hlast
    rw [← told_of_status_eq (status_of_top htop) c]
    exact hm.returns hlast
  · obtain ⟨m', hm', hresumed⟩ := exists_runBegins_of_lookup htop hfind hinput
    exact ⟨m', _, hm', hresumed, rfl, rfl, fun hindex rounds' ws final hshows =>
      Dialog.shows_taken_of_stands hstands hsteps hcollector hindex hshows⟩

/-! ### A dialog that begins another one when it is answered -/

/-- A dialog that begins another one on an answer, and asks for a name then. -/
def poll : Dialog :=
  ((Dialog.empty "poll" { seed := some 7 }).ask (.ofText "First?")
    (.callback (Routine.handler [.begin "one" {}])) none).ask (.ofText "Name?") (.options [])
      (some ⟨"name", false⟩)

/-- An empty stack of the dialog and the other one, which only says something. -/
def pollStack : Stack :=
  Stack.empty [("poll", poll),
    ("one", (Dialog.empty "one" { seed := some 7 }).say (.ofText "Bye."))] fun _ => 0

/-- The moment at which the dialog is about to begin. -/
def pollMoment : Moment := Call.atOpening (pollStack.beginning "poll" {})

/-- The first stage of its run. -/
def pollBegun : Stage Stack := ⟨.starting .begin, .launch {}, pollMoment.stack.enter 1⟩

/-- The stack on which the dialog has asked. -/
def pollAsked : Stack := pollStack.behind 2 (.start "poll" {})

/-- The answer. -/
def go : Activity := .message "web" "c" "u" "go"

/-- The stage at which a run of the dialog begins when the answer comes in, for a session. -/
def pollAnswered (f : Frame) : Stage Stack :=
  ⟨.starting (.continueWith go), f.session, pollAsked.enter f.id⟩

/-- What asks a question at a stage, and how its answer is dealt with. -/
def questionAt (t : Stage Stack) : Option (ℕ × Location × Message × Collect) :=
  match t.spot with
  | .performing budget cursor (.question message collect) => some (budget, cursor, message, collect)
  | _ => none

theorem spot_of_questionAt {t : Stage Stack} {budget : ℕ} {cursor : Location} {message : Message}
    {collect : Collect} (h : questionAt t = some (budget, cursor, message, collect)) :
    t.spot = .performing budget cursor (.question message collect) := by
  unfold questionAt at h
  split at h
  case h_1 hspot =>
    cases h
    exact hspot
  case h_2 => cases h

/-- The status with which a run is over at a stage. -/
def statusAt (t : Stage Stack) : Option TurnStatus :=
  match t.spot with
  | .returned outcome => outcome.toOption
  | _ => none

theorem spot_of_statusAt {t : Stage Stack} {status : TurnStatus} (h : statusAt t = some status) :
    t.spot = .returned (.ok status) := by
  unfold statusAt at h
  split at h
  case h_1 outcome hspot =>
    cases outcome with
    | ok _ =>
      cases h
      exact hspot
    | error e => cases h
  case h_2 => cases h

theorem asked_question_waits_poll :
    pollStack.Reachable ∧ Occurs (.start "poll" {}) pollStack pollMoment ∧
      RunBegins pollMoment ⟨1, "poll", .launch {}⟩ poll pollBegun ∧
      ∃ t budget cursor message collect, Leads (poll.next? (answer 2)) pollBegun t ∧
        t.spot = .performing budget cursor (.question message collect) ∧
        ∃ t' g, poll.next? (answer 2) t = some t' ∧ t'.spot = .returned (.ok .waiting) ∧
          t'.host.top? = some g ∧ g.id = 1 ∧
          Returns (.start "poll" {}) pollStack (.ok (some .waiting))
            (t'.host.leave.store 1 t'.session) := by
  have hfacts : ∃ t ∈ after (poll.next? (answer 2)) 5 pollBegun, ∃ q ∈ questionAt t,
      ∃ t' ∈ poll.next? (answer 2) t, statusAt t' = some .waiting ∧
        ∃ g ∈ t'.host.top?, g.id = 1 ∧
          (t'.host.leave.store 1 t'.session).pending.lookup 1 = none := by
    decide +kernel
  obtain ⟨t, ht, ⟨budget, cursor, message, collect⟩, hq, t', ht', hstatus, g, hg, hid, hnone⟩ :=
    hfacts
  have hoccurs : Occurs (.start "poll" {}) pollStack pollMoment := ⟨_, rfl, .refl _⟩
  have hbegun : RunBegins pollMoment ⟨1, "poll", .launch {}⟩ poll pollBegun :=
    ⟨rfl, rfl, .begin, rfl, fun _ => ⟨{}, rfl⟩, rfl⟩
  have hquestion := spot_of_questionAt hq
  have hasked := spot_of_statusAt hstatus
  obtain ⟨-, -, -, -, hreturns, -⟩ := asked_question_waits_iff (.empty _ _) hoccurs hbegun ⟨5, ht⟩
    hquestion ht' hasked hg hid
  exact ⟨.empty _ _, hoccurs, hbegun, t, budget, cursor, message, collect, ⟨5, ht⟩, hquestion, t',
    g, ht', hasked, hg, hid, hreturns hnone rfl⟩

/-- **The result of a child answers the question that is asked next.**  The dialog has begun another
one when it was answered, and that one has ended at once.  Then the dialog asks for a name and its
run waits; but the result is there, the dialog is resumed with it in the same turn, and keeps it as
the name. -/
theorem result_answers_question :
    (∃ f ∈ pollAsked.top?, ∃ t ∈ after (poll.next? (answer 3)) 10 (pollAnswered f),
      ∃ q ∈ questionAt t, ∃ t' ∈ poll.next? (answer 3) t, q.2.2.2.key = some "name" ∧
        statusAt t' = some .waiting ∧ t'.host.top?.map Frame.id = some f.id ∧
        ((t'.host.pending.lookup f.id).bind fun input => (Task.resume input).result?).map
          (·.values.map Prod.fst) = some []) ∧
      (pollAsked.call 3 (.continueTurn go)).map (fun x =>
          (x.1.toOption, x.2.depth, x.2.outbox.toList.map OutgoingMessage.text)) =
        some (some (some .complete), 0, ["First?", "Bye.", "Name?"]) ∧
      ((pollAsked.call 3 (.continueTurn go)).map fun x =>
          x.2.results.toList.map fun r => (r.dialog, r.result.values.map Prod.fst)) =
        some [("one", []), ("poll", ["name"])] := by
  refine ⟨?_, ?_, ?_⟩ <;> decide +kernel

end Stack

end Parley

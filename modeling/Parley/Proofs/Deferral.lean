import Parley.Dialog.Builder
import Parley.Proofs.Flat.Basic
import Parley.Proofs.Quiescence

/-!
# Results that wait

A dialog may end while the session below it runs.  That session cannot be resumed then; what it is
to be resumed with is deferred until its run is over.  There is one place for it: what is deferred
later takes the place of what was deferred before.

So when the run of a session is over and the session is still on top, it is resumed with what was
deferred last, and only with that (`Stack.last_deferred_is_delivered`).  All results are delivered
exactly if no dialog has ended after one that gave a result; of the results of two dialogs that end
during one run, the first is lost (`Stack.first_result_is_lost`).

* `Moment.during` : the engine, for as long as a session runs.
* `Moment.fate?` : what happens to what waits for a session.
* `Moment.Awaits.next` : how what waits for a session changes from one moment to the next.
-/

namespace Parley

open Stepping

/-- What may happen to what waits for a session. -/
inductive Fate where
  /-- The session above it has ended, and the session itself runs. -/
  | deferred (input : Option TurnInput)
  /-- All sessions have been removed. -/
  | cancelled

namespace Fate

/-- What is outstanding after one more thing has happened. -/
def follow : List (Option TurnInput) → Fate → List (Option TurnInput)
  | inputs, deferred input => inputs ++ [input]
  | _, cancelled => []

/-- What has been deferred since all sessions were last removed, in order. -/
def outstanding (fates : List Fate) : List (Option TurnInput) := fates.foldl follow []

/-- What waits once something has happened to it, or nothing. -/
def latest (waiting : Option (Option TurnInput)) : Option Fate → Option (Option TurnInput)
  | none => waiting
  | some (deferred input) => some input
  | some cancelled => none

theorem getLast?_outstanding_append (fates : List Fate) (fate : Option Fate) :
    (outstanding (fates ++ fate.toList)).getLast? = latest (outstanding fates).getLast? fate := by
  cases fate with
  | none => rw [Option.toList_none, List.append_nil, latest]
  | some fate =>
    have hfollow : outstanding (fates ++ [fate]) = follow (outstanding fates) fate := by
      rw [outstanding, List.foldl_append]
      rfl
    rw [Option.toList_some, hfollow]
    cases fate with
    | deferred input => exact List.getLast?_concat
    | cancelled => rfl

end Fate

/-- The results among what sessions are resumed with. -/
def resultsAmong (inputs : List (Option TurnInput)) : List DialogResult :=
  inputs.filterMap fun input => (Task.resume input).result?

/-- The last one alone gives all results exactly if none before it gives one. -/
theorem resultsAmong_getLast?_eq_iff (inputs : List (Option TurnInput)) :
    resultsAmong inputs.getLast?.toList = resultsAmong inputs ↔
      ∀ input ∈ inputs.dropLast, (Task.resume input).result? = none := by
  rcases List.eq_nil_or_concat' inputs with rfl | ⟨before, last, rfl⟩
  · simp
  · have hsplit : resultsAmong (before ++ [last]) = resultsAmong before ++ resultsAmong [last] :=
      List.filterMap_append ..
    rw [List.getLast?_concat, Option.toList_some, List.dropLast_concat, hsplit,
      List.self_eq_append_left, resultsAmong, List.filterMap_eq_nil_iff]

namespace Stack

variable {id other : ℕ}

theorem lookup_filter_ne (pending : List (ℕ × Option TurnInput)) (id other : ℕ) :
    (pending.filter (·.1 ≠ other)).lookup id = if other = id then none else pending.lookup id := by
  induction pending with
  | nil => simp
  | cons entry rest ih =>
    obtain ⟨key, input⟩ := entry
    by_cases hkey : key = other
    · subst hkey
      rw [List.filter_cons_of_neg (by simp), ih]
      by_cases hid : key = id
      · rw [if_pos hid, if_pos hid]
      · simp [List.lookup_cons, beq_false_of_ne (Ne.symm hid)]
    · rw [List.filter_cons_of_pos (by simpa using hkey), List.lookup_cons, List.lookup_cons, ih]
      by_cases hid : id = key
      · subst hid
        simp [Ne.symm hkey]
      · simp [beq_false_of_ne hid]

/-- What waits for a session is what was deferred for it last. -/
theorem lookup_defer_pending (st : Stack) (other : ℕ) (input : Option TurnInput) (id : ℕ) :
    (st.defer other input).pending.lookup id =
      if other = id then some input else st.pending.lookup id := by
  by_cases hid : other = id
  · subst hid
    simp [defer]
  · rw [defer, List.lookup_cons, beq_false_of_ne (Ne.symm hid)]
    dsimp only
    rw [lookup_filter_ne, if_neg hid, if_neg hid]

theorem lookup_undefer_pending (st : Stack) (other id : ℕ) :
    (st.undefer other).pending.lookup id =
      if other = id then none else st.pending.lookup id := lookup_filter_ne st.pending id other

theorem pending_beginning (st : Stack) (dialog : String) (options : LaunchOptions) :
    (st.beginning dialog options).1.pending = st.pending := by
  unfold beginning
  split <;> rfl

theorem pending_replacing (st : Stack) (dialog : String) (options : LaunchOptions) :
    (st.replacing dialog options).1.pending = st.pending := by
  unfold replacing
  split
  · rfl
  · split
    · exact pending_beginning st dialog options
    · exact pending_beginning _ dialog options

end Stack

namespace Moment

/-- The engine, for as long as a session runs. -/
def during (id : ℕ) (m : Moment) : Option Moment :=
  if id ∈ m.stack.executing then m.next? else none

/-- What is about to happen to what waits for a session. -/
def fate? (id : ℕ) (m : Moment) : Option Fate :=
  match m.phase with
  | .running _ _ (.ask (.finish result) _) =>
    match m.stack.frames with
    | _ :: parent :: _ =>
      if parent.id = id ∧ parent.id ∈ m.stack.executing then
        some (.deferred (result.map .result))
      else none
    | _ => none
  | .running _ _ (.ask .cancelAll _) => some .cancelled
  | _ => none

variable {id : ℕ} {fates : List Fate} {m m' : Moment}

theorem lookup_pending_asked (st : Stack) (K : List Suspended) (runner : ℕ) (taken : Session)
    (r : Request) (next : r.Answer → Remainder) (id : ℕ) :
    (asked ⟨st, .running runner taken (.ask r next), K⟩ runner taken r next).stack.pending.lookup
        id =
      Fate.latest (st.pending.lookup id)
        (fate? id ⟨st, .running runner taken (.ask r next), K⟩) := by
  cases r with
  | send | active | note | seed => rfl
  | cancelAll => rfl
  | begin dialog options =>
    exact congrArg (List.lookup id) (st.pending_beginning dialog options)
  | replace dialog options =>
    exact congrArg (List.lookup id) (st.pending_replacing dialog options)
  | finish result =>
    show (st.finishing result).1.pending.lookup id = _
    simp only [fate?]
    cases hframes : st.frames with
    | nil => simp only [Stack.finishing, hframes, Fate.latest]
    | cons top rest =>
      cases rest with
      | nil => simp only [Stack.finishing, hframes, Fate.latest, Stack.drop]
      | cons parent rest =>
        by_cases hp : parent.id ∈ st.executing
        · simp only [Stack.finishing, hframes, hp, if_true, and_true, Stack.lookup_defer_pending]
          by_cases hid : parent.id = id
          · rw [if_pos hid, if_pos hid, Fate.latest]
          · rw [if_neg hid, if_neg hid]
            rfl
        · simp only [Stack.finishing, hframes, hp, if_false, and_false, Fate.latest, Stack.drop]

/-- What is known of what waits for a session, at a moment within a run of it or just after: it is
the latest of what has been deferred in the run. -/
structure Awaits (id : ℕ) (fates : List Fate) (m : Moment) : Prop where
  sound : m.Sound
  latest : id ∈ m.stack.executing ∨ m.stopped? = some id →
    m.stack.pending.lookup id = (Fate.outstanding fates).getLast?

/-- The run of another session does not touch it. -/
theorem Awaits.finished {st : Stack} {K : List Suspended} {runner : ℕ} {taken : Session}
    {rest : Remainder} (h : Awaits id fates ⟨st, .running runner taken rest, K⟩)
    (hrun : id ∈ st.executing) (o : Except DialogError TurnStatus) (session : Session) :
    Awaits id fates (finished ⟨st, .running runner taken rest, K⟩ runner o session) := by
  refine ⟨h.sound.finished o session, fun hlater => ?_⟩
  have hlatest := h.latest (.inl hrun)
  cases o with
  | ok status => exact hlatest
  | error e =>
    -- were it the run of the session itself, the session would not run any more
    have hex : st.executing = runner :: (K.map fun s => (s.id, s.taken)).map Prod.fst :=
      h.sound.executing
    have hnodup := h.sound.nodup
    rw [hex] at hnodup
    obtain ⟨hnot, -⟩ := List.nodup_cons.1 hnodup
    have hne : runner ≠ id := by
      rintro rfl
      rcases hlater with hlater | hlater
      · have hlater : runner ∈ st.executing.tail := hlater
        rw [hex, List.tail_cons] at hlater
        exact hnot hlater
      · cases hlater
    have hundefer := Stack.lookup_undefer_pending (st.leave.store runner session) runner id
    rw [if_neg hne] at hundefer
    exact hundefer.trans hlatest

/-- **From one moment of a run to the next**, what waits for its session changes as it is seen. -/
theorem Awaits.next (h : Awaits id fates m) (hm : m.during id = some m') :
    Awaits id (fates ++ (m.fate? id).toList) m' := by
  unfold during at hm
  split at hm
  case isFalse => cases hm
  case isTrue hrun =>
    have hsound := h.sound.next hm
    have hlatest := h.latest (.inl hrun)
    -- what has stopped, and is resumed or dropped now, is not the session that runs
    have hother : ∀ {st : Stack} {K : List Suspended} {other : ℕ} {status : TurnStatus},
        m = ⟨st, .stopped other status, K⟩ →
          (st.undefer other).pending.lookup id = st.pending.lookup id := by
      rintro st K other status rfl
      have hstopped : other ∉ st.executing ∧ other < st.nextFrame := h.sound.phase
      have hne : other ≠ id := by
        rintro rfl
        exact hstopped.1 hrun
      rw [Stack.lookup_undefer_pending, if_neg hne]
    have hsame : (Fate.outstanding (fates ++ [])).getLast? = (Fate.outstanding fates).getLast? := by
      rw [List.append_nil]
    cases step_of_next? hm with
    | missing | unregistered | enter | stop | answer =>
      exact ⟨hsound, fun _ => hlatest.trans hsame.symm⟩
    | finish runner taken o session =>
      have hfinished := h.finished hrun o session
      exact ⟨hsound, fun hlater => (hfinished.latest hlater).trans hsame.symm⟩
    | ask runner taken r next =>
      refine ⟨hsound, fun _ => ?_⟩
      rw [lookup_pending_asked, hlatest, Fate.getLast?_outstanding_append]
    | resume | discard =>
      exact ⟨hsound, fun _ => ((hother rfl).trans hlatest).trans hsame.symm⟩

/-! ### Runs -/

/-- A session runs, from where it is about to run to where it has stopped without an error, and this
is what happens meanwhile to what waits for it. -/
structure RunsTo (id : ℕ) (begun : Moment) (fates : List Fate) (m : Moment) : Prop where
  entering : ∃ task, begun.phase = .entering id task
  passes : ∃ m₁, begun.next? = some m₁ ∧ Passes (during id) (fate? id) m₁ fates m
  stopped : m.stopped? = some id

/-- What the session that has just stopped is resumed with. -/
def resumption? (m : Moment) : Option (Option TurnInput) :=
  match m.phase with
  | .stopped id _ =>
    if (m.stack.top?.map Frame.id) = some id then m.stack.pending.lookup id else none
  | .entering .. | .running .. | .answering _ => none

theorem Sound.lookup_entering {begun : Moment} (h : begun.Sound)
    {task : Dialog → SessionM TurnStatus} (hphase : begun.phase = .entering id task) :
    begun.stack.pending.lookup id = none := by
  have hnot : id ∉ begun.stack.executing := by
    have hsound := h.phase
    rw [PhaseSound, hphase] at hsound
    exact hsound.1
  refine List.lookup_eq_none_iff.2 fun p hp => ?_
  rcases h.pending p hp with hrun | hstop
  · have hne : id ≠ p.1 := by
      rintro rfl
      exact hnot hrun
    simpa using hne
  · rw [stopped?, hphase] at hstop
    cases hstop

theorem RunsTo.awaits {begun : Moment} (h : begun.RunsTo id fates m) (hsound : begun.Sound) :
    m.Awaits id fates := by
  obtain ⟨task, hphase⟩ := h.entering
  obtain ⟨m₁, hm₁, hpasses⟩ := h.passes
  have hnone := hsound.lookup_entering hphase
  refine hpasses.invariant (I := fun fates t => t.Awaits id fates)
    ⟨hsound.next hm₁, fun _ => ?_⟩ fun _ _ _ => Awaits.next
  cases step_of_next? hm₁ with
  | missing | unregistered | enter => exact hnone
  | finish | ask | stop | resume | discard | answer => cases hphase

end Moment

namespace Stack

/-- **A session whose run is over is resumed with what was deferred last**, if it is still on top,
and nothing of what was deferred before is left.  So the results of the dialogs that have ended
above it are all delivered exactly if none of those before the last one gave a result. -/
theorem last_deferred_is_delivered {st : Stack} (h : st.Reachable) {c : Call} {begun m : Moment}
    (hbegun : Occurs c st begun) {id : ℕ} {fates : List Fate} (hrun : begun.RunsTo id fates m)
    (htop : m.stack.top?.map Frame.id = some id) :
    m.resumption? = (Fate.outstanding fates).getLast? ∧
      (∀ input, m.resumption? = some input →
        m.next? = some ⟨m.stack.undefer id, .entering id (·.resume input), m.suspended⟩ ∧
          (m.stack.undefer id).pending.lookup id = none) ∧
      (m.resumption? = none →
        ∃ status, m.next? = some ⟨m.stack, .answering (.ok status), m.suspended⟩) ∧
      (resultsAmong m.resumption?.toList = resultsAmong (Fate.outstanding fates) ↔
        ∀ input ∈ (Fate.outstanding fates).dropLast, (Task.resume input).result? = none) := by
  have hlatest := (hrun.awaits (h.quiescent.sound hbegun)).latest (.inr hrun.stopped)
  have hstopped := hrun.stopped
  obtain ⟨stack, phase, K⟩ := m
  cases phase with
  | entering | running | answering => cases hstopped
  | stopped stopped status =>
    obtain rfl : stopped = id := Option.some.inj hstopped
    have hresumption : Moment.resumption? ⟨stack, .stopped stopped status, K⟩ =
        stack.pending.lookup stopped := if_pos htop
    refine ⟨hresumption.trans hlatest, fun input hinput => ⟨?_, ?_⟩, fun hnone => ⟨status, ?_⟩, ?_⟩
    · exact Moment.next?_stopped_of_top (hresumption.symm.trans hinput) htop
    · rw [lookup_undefer_pending, if_pos rfl]
    · exact Moment.next?_stopped_of_lookup_eq_none (hresumption.symm.trans hnone)
    · rw [hresumption.trans hlatest]
      exact resultsAmong_getLast?_eq_iff _

/-! ### A session above which two dialogs end -/

/-- A dialog that begins others before its first line, and waits on its second one. -/
def keeper (children : List String) : Dialog :=
  (((Dialog.empty "keeper" { seed := some 7 }).say (.ofText "Hi.")).addMessageThen (.ofText "Well.")
    .wait defaultThread).addBefore defaultThread (Routine.before
      (children.map fun child => .begin child { values := [(child, .null)] }))

/-- A dialog that ends as soon as it begins. -/
def ender (id : String) : Dialog :=
  (Dialog.empty id { seed := some 7 }).addAction .complete defaultThread

/-- An empty stack of the dialog and two others. -/
def keeperStack (children : List String) : Stack :=
  Stack.empty [("keeper", keeper children), ("one", ender "one"), ("two", ender "two")] fun _ => 0

/-- The moment at which the session of the dialog is about to run. -/
def keeperBegun (children : List String) : Moment :=
  Call.atOpening ((keeperStack children).beginning "keeper" {})

/-- A later moment, as long as the session runs. -/
def keeperAfter (children : List String) (steps : ℕ) : Moment :=
  ((keeperBegun children).next?.bind (after (Moment.during 1) steps)).getD (keeperBegun children)

/-- What has happened until then to what waits for the session. -/
def keeperFates (children : List String) (steps : ℕ) : List Fate :=
  ((keeperBegun children).next?.map (sights (Moment.during 1) (Moment.fate? 1) steps)).getD []

theorem keeperBegun_occurs (children : List String) :
    Occurs (.start "keeper" {}) (keeperStack children) (keeperBegun children) :=
  ⟨_, rfl, .refl _⟩

theorem keeperBegun_runsTo {children : List String} {steps : ℕ}
    (hstopped : ((keeperBegun children).next?.bind (after (Moment.during 1) steps)).bind
      Moment.stopped? = some 1) :
    (keeperBegun children).RunsTo 1 (keeperFates children steps) (keeperAfter children steps) := by
  obtain ⟨m, hm, hstopped⟩ := Option.bind_eq_some_iff.1 hstopped
  obtain ⟨m₁, hm₁, hafter⟩ := Option.bind_eq_some_iff.1 hm
  have hkeeper : keeperAfter children steps = m := by
    rw [keeperAfter, hm, Option.getD_some]
  have hfates : keeperFates children steps =
      sights (Moment.during 1) (Moment.fate? 1) steps m₁ := by
    rw [keeperFates, hm₁, Option.map_some, Option.getD_some]
  rw [hkeeper, hfates]
  exact ⟨⟨_, rfl⟩, ⟨m₁, hm₁, passes_of_after hafter⟩, hstopped⟩

theorem last_deferred_is_delivered_alone :
    (keeperStack ["one"]).Reachable ∧
      Occurs (.start "keeper" {}) (keeperStack ["one"]) (keeperBegun ["one"]) ∧
      (keeperBegun ["one"]).RunsTo 1 (keeperFates ["one"] 20) (keeperAfter ["one"] 20) ∧
      (keeperAfter ["one"] 20).stack.top?.map Frame.id = some 1 ∧
      (resultsAmong (keeperAfter ["one"] 20).resumption?.toList).map (·.values.map Prod.fst) =
        [["one"]] := by
  have hrun : (keeperBegun ["one"]).RunsTo 1 (keeperFates ["one"] 20) (keeperAfter ["one"] 20) :=
    keeperBegun_runsTo (by decide +kernel)
  have htop : (keeperAfter ["one"] 20).stack.top?.map Frame.id = some 1 := by decide +kernel
  have hlatest := (last_deferred_is_delivered (.empty _ _) (keeperBegun_occurs ["one"]) hrun htop).1
  refine ⟨.empty _ _, keeperBegun_occurs _, hrun, htop, ?_⟩
  rw [hlatest]
  decide +kernel

/-- **Of two dialogs that end during one run, the first has ended for nothing.**  Both gave a
result, and the session below them is resumed with that of the second; nothing else waits. -/
theorem first_result_is_lost :
    Occurs (.start "keeper" {}) (keeperStack ["one", "two"]) (keeperBegun ["one", "two"]) ∧
      ∃ m fates, (keeperBegun ["one", "two"]).RunsTo 1 fates m ∧
        m.stack.top?.map Frame.id = some 1 ∧
        (resultsAmong (Fate.outstanding fates)).map (·.values.map Prod.fst) = [["one"], ["two"]] ∧
        (resultsAmong m.resumption?.toList).map (·.values.map Prod.fst) = [["two"]] ∧
        (m.stack.undefer 1).pending.length = 0 := by
  refine ⟨keeperBegun_occurs _, keeperAfter ["one", "two"] 32, keeperFates ["one", "two"] 32,
    keeperBegun_runsTo (by decide +kernel), ?_⟩
  decide +kernel

end Stack

end Parley

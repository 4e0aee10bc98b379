import Parley.Proofs.Flat.Loading
import Parley.Proofs.Flat.Simulation
import Parley.Proofs.Moment.Faithful
import Parley.Proofs.Quiescence

/-!
# The engine and the flat machine agree

For dialogs without callbacks a turn on the engine comes to the same as a turn on the flat machine:
one returns when the other one does, with the same outcome and the same stack behind it, messages,
results, sessions and log included (`Stack.engine_agrees_with_flat`).  On the way both run the same
sessions with the same tasks.

The flat machine resumes a session with a result right after it has recorded that result, so the
results of a turn are those that sessions are resumed with, each once and in this order; only the
one that leaves the stack empty is given to nobody (`Flat.exists_givesOnce`).
-/

namespace Parley

open Stepping

/-! ### Results -/

namespace Flat

/-- The stack of a state. -/
def stack : Flat → Stack
  | running _ st => st
  | halted _ st => st
  | aborted st => st

/-- The result that the session on top is about to be resumed with. -/
def due (t : Flat) : List DialogResult :=
  match t.entered? with
  | some w => w.2.result?.toList
  | none => []

/-- What the step of a state records. -/
inductive Records (t t' : Flat) : Prop where
  /-- A result that the next session is resumed with, or nothing. -/
  | given (recorded : List Completed)
      (hresults : t'.stack.results.toList = t.stack.results.toList ++ recorded)
      (hdue : t'.due = recorded.map Completed.result)
  /-- The result of the last session. -/
  | last (completed : Completed)
      (hresults : t'.stack.results.toList = t.stack.results.toList ++ [completed])
      (hframes : t'.stack.frames = []) (hend : t'.next? = none)

theorem Records.nothing {t t' : Flat} (h : t'.stack.results = t.stack.results)
    (hdue : t'.due = []) : Records t t' :=
  .given [] (by rw [h, List.append_nil]) hdue

theorem results_play {α : Type} {x : HostM α} {a : α} {s s' : Stack × Option Handover}
    (h : play x s = some (a, s')) : s'.1.results = s.1.results := by
  induction x generalizing s with
  | done value =>
    obtain ⟨-, rfl⟩ := Prod.mk.inj (Option.some.inj h)
    rfl
  | ask r next ih =>
    rw [ih _ h]
    cases r <;> rfl
  | abort => cases h

theorem records_begin (dialog : String) (options : LaunchOptions) {t : Flat} {st : Stack}
    (h : st.results = t.stack.results) : Records t (begin dialog options st) := by
  unfold begin
  cases st.dialogs.find dialog with
  | error e => exact .nothing h rfl
  | ok d => exact .nothing h rfl

theorem records_replace (dialog : String) (options : LaunchOptions) {t : Flat} {st : Stack}
    (h : st.results = t.stack.results) : Records t (replace dialog options st) := by
  unfold replace
  cases st.dialogs.find dialog with
  | error e => exact .nothing h rfl
  | ok d =>
    cases st.frames with
    | nil => exact records_begin dialog options h
    | cons frame rest => exact records_begin dialog options h

theorem records_finish (result : Option DialogResult) {t : Flat} {st : Stack}
    (h : st.results = t.stack.results) : Records t (finish result st) := by
  unfold finish
  cases st.frames with
  | nil => exact .nothing h rfl
  | cons frame rest =>
    cases result with
    | none =>
      cases rest with
      | nil => exact .nothing h rfl
      | cons parent rest => exact .nothing h rfl
    | some r =>
      have hresults : (st.drop frame rest (some r)).results.toList =
          t.stack.results.toList ++ [⟨frame.dialog, r⟩] := by
        rw [Stack.drop, h, Array.toList_push]
      cases rest with
      | nil => exact .last _ hresults rfl rfl
      | cons parent rest => exact .given _ hresults rfl

/-- A step records at most one result, and the next step is to resume a session with it. -/
theorem records_next {t t' : Flat} (h : t.next? = some t') : Records t t' := by
  cases t with
  | halted | aborted => cases h
  | running task st =>
    simp only [next?] at h
    split at h
    · cases h
      exact .nothing rfl rfl
    · next frame _ =>
      split at h
      · cases h
        exact .nothing rfl rfl
      · next d _ =>
        cases h
        rcases hplay : play ((task.on d).run.run frame.session) (st, none) with
          _ | ⟨⟨o, session⟩, st', asked⟩
        · exact .nothing rfl rfl
        have hstore : (st'.store frame.id session).results = (running task st).stack.results :=
          results_play hplay
        cases o with
        | error e => exact .nothing hstore rfl
        | ok status =>
          cases asked with
          | none => exact .nothing hstore rfl
          | some asked =>
            cases asked with
            | begin dialog options => exact records_begin dialog options hstore
            | replace dialog options => exact records_replace dialog options hstore
            | finish result => exact records_finish result hstore

/-- The results that are recorded between two stacks are given, each one once and in order; a last
one that leaves the stack empty is given to nobody. -/
def GivesOnce (st st' : Stack) (given : List DialogResult) : Prop :=
  ∃ recorded last : List Completed,
    st'.results.toList = st.results.toList ++ recorded ++ last ∧
      given = recorded.map Completed.result ∧
      (last = [] ∨ ∃ completed, last = [completed] ∧ st'.frames = [])

theorem givesOnce_of_next {t t₁ t' : Flat} {ws : List (ℕ × Task)} {given : List DialogResult}
    (h : t.next? = some t₁) (hrest : Shows next? entered? t₁ ws t')
    (hgiven : ws.filterMap (·.2.result?) = t₁.due ++ given)
    (ih : GivesOnce t₁.stack t'.stack given) :
    GivesOnce t.stack t'.stack (ws.filterMap (·.2.result?)) := by
  cases records_next h with
  | given recorded₁ hresults hdue =>
    obtain ⟨recorded, last, hrecorded, rfl, hlast⟩ := ih
    refine ⟨recorded₁ ++ recorded, last, ?_, ?_, hlast⟩
    · rw [hrecorded, hresults, List.append_assoc _ recorded₁ recorded]
    · rw [hgiven, hdue, List.map_append]
  | last completed hresults hframes hend =>
    cases hrest with
    | nil =>
      exact ⟨[], [completed], by rw [List.append_nil, hresults], rfl,
        .inr ⟨completed, rfl, hframes⟩⟩
    | skip _ hnext _ | cons _ hnext _ =>
      rw [hend] at hnext
      cases hnext

/-- **Every result is given once, in the order in which the results are recorded.**  The task at
hand may bring one that was recorded before. -/
theorem exists_givesOnce {t t' : Flat} {ws : List (ℕ × Task)} (h : Shows next? entered? t ws t') :
    ∃ given, ws.filterMap (·.2.result?) = t.due ++ given ∧ GivesOnce t.stack t'.stack given := by
  induction h with
  | @nil t hseen _ =>
    refine ⟨[], ?_, [], [], by simp, rfl, .inl rfl⟩
    rw [due, hseen]
    rfl
  | skip hseen hnext hrest ih =>
    obtain ⟨given, hgiven, hgives⟩ := ih
    refine ⟨_, ?_, givesOnce_of_next hnext hrest hgiven hgives⟩
    rw [due, hseen]
    rfl
  | @cons t t₁ t' w ws hseen hnext hrest ih =>
    obtain ⟨given, hgiven, hgives⟩ := ih
    refine ⟨_, ?_, givesOnce_of_next hnext hrest hgiven hgives⟩
    rw [due, hseen, List.filterMap_cons]
    show _ = w.2.result?.toList ++ _
    cases w.2.result? <;> rfl

/-! ### Turns -/

/-- What a turn on the flat machine comes to.  On an empty stack there is nothing to go on with. -/
def Returns (c : Stack.Call) (st : Stack) (outcome : Except DialogError (Option TurnStatus))
    (st' : Stack) : Prop :=
  match opening? c st with
  | some t => ∃ o, Ends next? t (halted o st') ∧ outcome = o.map fun _ => some st'.status
  | none => outcome = .ok (some .empty) ∧ st' = st

/-- The sessions that run in a turn on the flat machine, with their tasks. -/
def Runs (c : Stack.Call) (st : Stack) (ws : List (ℕ × Task)) : Prop :=
  match opening? c st with
  | some t => ∃ t', Shows next? entered? t ws t'
  | none => ws = []

end Flat

theorem DialogSet.forall_of_find {dialogs : DialogSet} {P : Dialog → Prop}
    (h : ∀ entry ∈ dialogs, P entry.2) : ∀ id d, dialogs.find id = .ok d → P d := by
  intro id d hd
  exact h (id, d) (Keyed.mem_of_get?_eq_some (DialogSet.find_eq_ok_iff.1 hd))

namespace Stack

/-- The sessions that run in a call, with what they are to do. -/
def Runs (c : Call) (st : Stack) (ws : List (ℕ × (Dialog → SessionM TurnStatus))) : Prop :=
  match c.opening? st with
  | some m => ∃ m', Shows Moment.next? Moment.entered? m ws m'
  | none => ws = []

/-- Calls that are turns of a conversation. -/
def Call.IsTurn : Call → Prop
  | .start _ _ | .continueTurn _ => True
  | .begin _ _ | .replace _ _ | .finish _ | .cancelAll | .send _ => False

variable {st : Stack} {c : Call}

theorem Quiescent.waiting (h : st.Quiescent) : st.Waiting [] [] :=
  ⟨.nil, h.executing, h.executing ▸ List.nodup_nil,
    fun _ hid => absurd (h.executing ▸ hid) List.not_mem_nil, h.pending⟩

theorem Quiescent.calm_eq (h : st.Quiescent) : st.calm [] = st := calm_nil h.executing h.pending

theorem Quiescent.openings (h : st.Quiescent) (hc : c.IsTurn) :
    (∃ m t m', c.opening? st = some m ∧ Flat.opening? c st = some t ∧ m.Glides m' ∧
      m'.Agrees t) ∨
      (c.opening? st = none ∧ Flat.opening? c st = none ∧
        ∃ activity, c = .continueTurn activity) := by
  cases c with
  | start dialog options =>
    obtain ⟨m', hglide, hagrees⟩ := Moment.agrees_begin h.waiting dialog options
    rw [h.calm_eq] at hagrees
    exact .inl ⟨_, _, m', rfl, rfl, hglide, hagrees⟩
  | continueTurn activity =>
    cases htop : st.top? with
    | none =>
      right
      simp only [Call.opening?, Flat.opening?, htop, Option.map_none]
      exact ⟨trivial, trivial, activity, rfl⟩
    | some frame =>
      left
      have hagrees := Moment.Agrees.running h.waiting frame.id (.continueWith activity)
      rw [h.calm_eq] at hagrees
      refine ⟨_, _, _, ?_, ?_, .refl _, hagrees⟩
      · simp only [Call.opening?, htop, Option.map_some]
        rfl
      · simp only [Flat.opening?, htop, Option.map_some]
  | begin | replace | finish | cancelAll | send => exact hc.elim

theorem told_of_isTurn (hc : c.IsTurn) (o : Except DialogError TurnStatus) (st : Stack) :
    c.told o st = o.map fun _ => some st.status := by
  cases c with
  | start | continueTurn => rfl
  | begin | replace | finish | cancelAll | send => exact hc.elim

theorem map_eq_of_sameOutcome {o o' : Except DialogError TurnStatus} (h : SameOutcome o o')
    (status : Option TurnStatus) : o.map (fun _ => status) = o'.map fun _ => status := by
  cases o <;> cases o' <;> cases h <;> rfl

theorem dialogs_opening {m : Moment} (hm : c.opening? st = some m) :
    m.stack.dialogs = st.dialogs := by
  cases c with
  | start dialog options | begin dialog options =>
    obtain rfl := Option.some.inj hm
    exact Moment.dialogs_beginning st dialog options
  | replace dialog options =>
    obtain rfl := Option.some.inj hm
    exact Moment.dialogs_replacing st dialog options
  | finish result =>
    obtain rfl := Option.some.inj hm
    exact Moment.dialogs_finishing st result
  | continueTurn activity =>
    obtain ⟨frame, -, rfl⟩ := Option.map_eq_some_iff.1 hm
    rfl
  | cancelAll | send => cases hm

/-- A turn begins with nothing recorded and no result to be given. -/
theorem flat_opening {t : Flat} (hc : c.IsTurn) (ht : Flat.opening? c st = some t) :
    t.due = [] ∧ t.stack.results = st.results := by
  cases c with
  | start dialog options =>
    obtain rfl := Option.some.inj ht
    unfold Flat.begin
    cases st.dialogs.find dialog with
    | error e => exact ⟨rfl, rfl⟩
    | ok d => exact ⟨rfl, rfl⟩
  | continueTurn activity =>
    obtain ⟨frame, htop, rfl⟩ := Option.map_eq_some_iff.1 ht
    refine ⟨?_, rfl⟩
    simp only [Flat.due, Flat.entered?, htop, Option.map_some]
    rfl
  | begin | replace | finish | cancelAll | send => exact hc.elim

theorem follows_opening {m m' : Moment} {t : Flat} (h : st.Quiescent) (hfree : st.CallbackFree)
    (hm : c.opening? st = some m) (hglide : m.Glides m') (hagrees : m'.Agrees t) :
    m'.Follows t := by
  refine ⟨h.sound ⟨m, hm, hglide.leads⟩, ?_, hagrees⟩
  intro id d hd
  rw [Moment.dialogs_leads hglide.leads, dialogs_opening hm] at hd
  exact hfree id d hd

theorem Quiescent.returns_iff_flat (h : st.Quiescent) (hfree : st.CallbackFree) (hc : c.IsTurn)
    {outcome : Except DialogError (Option TurnStatus)} {st' : Stack} :
    Returns c st outcome st' ↔ Flat.Returns c st outcome st' := by
  rcases h.openings hc with ⟨m, t, m', hm, ht, hglide, hagrees⟩ | ⟨hm, ht, activity, rfl⟩
  · have hfollows := follows_opening h hfree hm hglide hagrees
    rw [returns_iff_ends hm, Flat.Returns, ht]
    constructor
    · rintro ⟨o, hends, rfl⟩
      obtain ⟨ws, o', hsame, hws, -⟩ := hfollows.halts hglide hends
      exact ⟨o', hws.ends, (told_of_isTurn hc o st').trans (map_eq_of_sameOutcome hsame _)⟩
    · rintro ⟨o', hends, rfl⟩
      obtain ⟨o, hsame, hends'⟩ := hfollows.arrives hglide hends
      exact ⟨o, hends', (told_of_isTurn hc o st').trans (map_eq_of_sameOutcome hsame _)⟩
  · -- there is nothing to go on with
    rw [returns_of_opening?_eq_none hm, Flat.Returns, ht]
    constructor
    · rintro (⟨-, -, ho, hst⟩ | ⟨hc, -⟩ | ⟨message, hc, -⟩)
      · exact ⟨ho, hst⟩
      · cases hc
      · cases hc
    · rintro ⟨ho, hst⟩
      exact .inl ⟨activity, rfl, ho, hst⟩

theorem Quiescent.exists_runs (h : st.Quiescent) (hfree : st.CallbackFree) (hc : c.IsTurn)
    {outcome : Except DialogError (Option TurnStatus)} {st' : Stack}
    (hreturns : Returns c st outcome st') :
    ∃ ws, Flat.Runs c st ws ∧ Runs c st (ws.map fun w => (w.1, w.2.on)) ∧
      Flat.GivesOnce st st' (ws.filterMap (·.2.result?)) := by
  rcases h.openings hc with ⟨m, t, m', hm, ht, hglide, hagrees⟩ | ⟨hm, ht, activity, rfl⟩
  · have hfollows := follows_opening h hfree hm hglide hagrees
    obtain ⟨o, hends, -⟩ := (returns_iff_ends hm).1 hreturns
    obtain ⟨ws, o', -, hws, hvs⟩ := hfollows.halts hglide hends
    obtain ⟨hdue, hresults⟩ := flat_opening hc ht
    obtain ⟨given, hgiven, hgives⟩ := Flat.exists_givesOnce hws
    rw [Flat.GivesOnce, hresults] at hgives
    rw [hdue, List.nil_append] at hgiven
    refine ⟨ws, ?_, ?_, hgiven ▸ hgives⟩
    · rw [Flat.Runs, ht]
      exact ⟨_, hws⟩
    · rw [Runs, hm]
      exact ⟨_, hvs⟩
  · have hflat := (h.returns_iff_flat hfree hc).1 hreturns
    rw [Flat.Returns, ht] at hflat
    obtain ⟨-, rfl⟩ := hflat
    refine ⟨[], ?_, ?_, [], [], by simp, rfl, .inl rfl⟩
    · rw [Flat.Runs, ht]
    · rw [Runs, hm]
      rfl

/-- **The engine agrees with the flat machine.**  For dialogs without callbacks, a turn returns on
one exactly when it returns on the other, with the same outcome and the same stack behind it.  Both
run the same sessions with the same tasks, and every result that is recorded is given to a session
exactly once, unless it leaves the stack empty. -/
theorem engine_agrees_with_flat (h : st.Reachable) (hfree : st.CallbackFree) (hc : c.IsTurn) :
    (∀ outcome st', Returns c st outcome st' ↔ Flat.Returns c st outcome st') ∧
      ∀ outcome st', Returns c st outcome st' →
        ∃ ws, Flat.Runs c st ws ∧ Runs c st (ws.map fun w => (w.1, w.2.on)) ∧
          Flat.GivesOnce st st' (ws.filterMap (·.2.result?)) :=
  ⟨fun _ _ => h.quiescent.returns_iff_flat hfree hc,
    fun _ _ hreturns => h.quiescent.exists_runs hfree hc hreturns⟩

/-! ### A visit -/

/-- The dialog of a definition with one thread. -/
def defined (id : String) (lines : List LineDefinition) : Dialog :=
  (({ id := id, threads := [(defaultThread, lines)] } : DialogDefinition).toDialog
    { seed := some 7 }).toOption.getD (silent id)

theorem callbackFree_silent (id : String) : (silent id).CallbackFree := by
  refine ⟨rfl, rfl, rfl, fun thread lines hlines line hline => ?_⟩
  rw [show (silent id).script.thread? thread = if defaultThread = thread then some [] else none
    from rfl] at hlines
  split at hlines
  · cases hlines
    cases hline
  · cases hlines

theorem callbackFree_defined (id : String) (lines : List LineDefinition) :
    (defined id lines).CallbackFree := by
  unfold defined
  generalize hd : DialogDefinition.toDialog _ _ = x
  cases x with
  | error e => exact callbackFree_silent id
  | ok d => exact DialogDefinition.callbackFree_of_toDialog hd

/-- An empty stack of three dialogs: a visit has a form to fill in, which asks for a name and begins
a dialog that ends at once. -/
def visitStack : Stack :=
  Stack.empty
    [("form", defined "form"
        [{ text := some (.one "Your name?"), collect := some { key := some "name" } },
          { action := some "beginDialog", execute := some { script := "silent" },
            collect := some {} }]),
      ("silent", silent "silent"),
      ("visit", defined "visit"
        [{ action := some "beginDialog", execute := some { script := "form" },
            collect := some {} }])] fun _ => 0

/-- The stack on which the form waits for the name. -/
def whileAsking : Stack :=
  ((visitStack.call 3 (.start "visit" {})).map Prod.snd).getD visitStack

/-- The name. -/
def reply : Call := .continueTurn (.message "test" "conversation" "guest" "Ada")

theorem returns_visit :
    Returns (.start "visit" {}) visitStack (.ok (some .waiting)) whileAsking := ⟨3, rfl⟩

theorem whileAsking_reachable : whileAsking.Reachable := .call (.empty _ _) returns_visit

theorem exists_returns_reply :
    ∃ st', Returns reply whileAsking (.ok (some .complete)) st' ∧ st'.depth = 0 ∧
      st'.results.map (·.dialog) = #["silent", "form", "visit"] := by
  have hcall : ((whileAsking.call 5 reply).map fun x =>
      (x.1.toOption, x.2.depth, x.2.results.map (·.dialog))) =
        some (some (some .complete), 0, #["silent", "form", "visit"]) := by
    decide +kernel
  obtain ⟨⟨outcome, st'⟩, hx, hfacts⟩ := Option.map_eq_some_iff.1 hcall
  obtain ⟨ho, hfacts⟩ := Prod.mk.inj hfacts
  obtain ⟨hdepth, hresults⟩ := Prod.mk.inj hfacts
  cases outcome with
  | error e => cases ho
  | ok status =>
    cases ho
    exact ⟨st', ⟨5, hx⟩, hdepth, hresults⟩

theorem whileAsking_callbackFree : whileAsking.CallbackFree := by
  refine DialogSet.forall_of_find fun entry hentry => ?_
  have hdialogs : whileAsking.dialogs = visitStack.dialogs := rfl
  rw [hdialogs] at hentry
  simp only [visitStack, Stack.empty, List.mem_cons, List.not_mem_nil, or_false] at hentry
  rcases hentry with rfl | rfl | rfl
  · dsimp only
    exact callbackFree_defined _ _
  · exact callbackFree_silent _
  · dsimp only
    exact callbackFree_defined _ _

theorem engine_agrees_with_flat_reply :
    whileAsking.Reachable ∧ whileAsking.CallbackFree ∧ reply.IsTurn ∧
      ∃ st', Returns reply whileAsking (.ok (some .complete)) st' ∧
        Flat.Returns reply whileAsking (.ok (some .complete)) st' ∧ st'.depth = 0 ∧
        st'.results.map (·.dialog) = #["silent", "form", "visit"] := by
  obtain ⟨st', hreturns, hfacts⟩ := exists_returns_reply
  have hagrees := engine_agrees_with_flat (c := reply) whileAsking_reachable
    whileAsking_callbackFree trivial
  exact ⟨whileAsking_reachable, whileAsking_callbackFree, trivial, st', hreturns,
    (hagrees.1 _ _).1 hreturns, hfacts⟩

end Stack

end Parley

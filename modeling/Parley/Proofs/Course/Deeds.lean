import Mathlib.Data.List.Infix
import Parley.Proofs.Course.Stage

/-!
# What is done in a run

A run of a dialog does some things that can be told one by one: a pass begins at a line, hooks are
called, an answer is captured and handed to a handler, a line is carried out, the host is asked to
end the dialog.  These are its *deeds*, and `Dialog.deed?` reads the deed of a stage off the stage
and the host.  The deeds that are passed on the way of a run are its story.

Hooks are called in turn, each on what the one before it has left, up to the first that fails.
`StatefulAttempt.calledInTurn` tells which ones that are.

* `StatefulAttempt.runWith_calledInTurn` : carrying out those that are called is carrying out all.
* `Dialog.exists_before_of_next?`, `Dialog.exists_changes_of_next?` : where hooks leave a run.
* `Dialog.stride_closing` : a dialog that ends asks its host first, and then sees what it says.
-/

namespace Parley

open Stepping StatefulAttempt

namespace StatefulAttempt

variable {α β σ η : Type} {host : (r : Request) → η → Option (r.Answer × η)}

/-! ### One after another -/

theorem runWith_map (x : StatefulAttempt σ α) (f : α → β) (s : σ) (w : η) :
    runWith host (x >>= fun a => pure (f a)) s w =
      (runWith host x s w).map fun y => ((y.1.1.map f, y.1.2), y.2) := by
  rw [runWith_bind]
  cases runWith host x s w with
  | none => rfl
  | some y =>
    obtain ⟨⟨o, s'⟩, w'⟩ := y
    cases o <;> rfl

theorem runWith_liftHost (x : HostM α) (s : σ) (w : η) :
    runWith host (MonadLiftT.monadLift x : StatefulAttempt σ α) s w =
      (HostM.run host x w).map fun y => ((.ok y.1, s), y.2) := by
  refine (runWith_liftM (ExceptT.lift x) s w).trans ?_
  have hlift : HostM.run host (ExceptT.lift x : Attempt α).run w =
      (HostM.run host x w).map fun y => (.ok y.1, y.2) := by
    refine (HostM.run_bind host x _ w).trans ?_
    cases HostM.run host x w <;> rfl
  rw [hlift, Option.map_map]
  rfl

/-- Those items that are called when all are to be called one after another: all of them, up to the
first that fails. -/
def calledInTurn (host : (r : Request) → η → Option (r.Answer × η))
    (call : α → StatefulAttempt σ Unit) : List α → σ → η → List α
  | [], _, _ => []
  | a :: rest, s, w =>
    a :: match runWith host (call a) s w with
      | some ((.ok _, s'), w') => calledInTurn host call rest s' w'
      | _ => []

section

variable {call : α → StatefulAttempt σ Unit}

theorem calledInTurn_cons_of_ok {a : α} {rest : List α} {s s' : σ} {w w' : η}
    (h : runWith host (call a) s w = some ((.ok (), s'), w')) :
    calledInTurn host call (a :: rest) s w = a :: calledInTurn host call rest s' w' := by
  rw [calledInTurn, h]

/-- Whoever is called is called when it is its turn. -/
theorem prefix_calledInTurn (items : List α) (s : σ) (w : η) :
    calledInTurn host call items s w <+: items := by
  induction items generalizing s w with
  | nil => exact List.prefix_refl _
  | cons a rest ih =>
    rw [calledInTurn]
    refine (List.prefix_cons_inj a).2 ?_
    split
    · exact ih _ _
    · exact List.nil_prefix

theorem calledInTurn_eq {items : List α} {s s' : σ} {w w' : η}
    (h : runWith host (forM items call) s w = some ((.ok (), s'), w')) :
    calledInTurn host call items s w = items := by
  induction items generalizing s w with
  | nil => rfl
  | cons a rest ih =>
    rw [List.forM_cons] at h
    obtain ⟨_, s₁, w₁, ha, hrest⟩ := exists_of_runWith_bind h
    rw [calledInTurn_cons_of_ok ha, ih hrest]

theorem exists_error_of_forM {items : List α} {e : DialogError} {s s' : σ} {w w' : η}
    (h : runWith host (forM items call) s w = some ((.error e, s'), w')) :
    ∃ a ∈ items, ∃ s₁ w₁, runWith host (call a) s₁ w₁ = some ((.error e, s'), w') := by
  induction items generalizing s w with
  | nil => cases h
  | cons a rest ih =>
    rw [List.forM_cons, runWith_bind] at h
    obtain ⟨⟨⟨o, s₁⟩, w₁⟩, ha, hrest⟩ := Option.bind_eq_some_iff.1 h
    cases o with
    | error e₁ => exact ⟨a, List.mem_cons_self, s, w, ha.trans hrest⟩
    | ok _ =>
      obtain ⟨b, hb, hfailed⟩ := ih hrest
      exact ⟨b, List.mem_cons_of_mem a hb, hfailed⟩

/-- **Carrying out those that are called is carrying out all**: the others do nothing. -/
theorem runWith_calledInTurn (items : List α) (s : σ) (w : η) :
    runWith host (forM (calledInTurn host call items s w) call) s w =
      runWith host (forM items call) s w := by
  induction items generalizing s w with
  | nil => rfl
  | cons a rest ih =>
    rw [calledInTurn, List.forM_cons, List.forM_cons, runWith_bind, runWith_bind]
    cases runWith host (call a) s w with
    | none => rfl
    | some y =>
      obtain ⟨⟨o, s'⟩, w'⟩ := y
      cases o with
      | ok _ => exact ih s' w'
      | error e => rfl

end

end StatefulAttempt

/-! ### Deeds -/

/-- What a run does. -/
inductive Deed where
  /-- A pass begins at a line. -/
  | arrives (cursor : Location) (input : Option TurnInput)
  /-- Hooks before a thread are called, and have left the cursor somewhere if none has failed. -/
  | before (called : List BeforeHook) (left : Option Location)
  /-- An answer is captured under a key. -/
  | captures (key : String) (answer : Json)
  /-- Hooks on a captured answer are called, and have left the cursor somewhere if none has
  failed. -/
  | changes (called : List ChangeHook) (answer : Json) (left : Option Location)
  /-- An answer is handed to a handler, whose callback is called or whose action is dispatched
  then. -/
  | handles (handler : Handler)
  /-- A line is carried out: a question is asked, or a message is sent. -/
  | performs (cursor : Location) (line : Line)
  /-- The action of a line is dispatched. -/
  | dispatches (cursor : Location) (action : Action)
  /-- The host is asked to end the active dialog, and has answered. -/
  | finishes (result : Option DialogResult) (answer : Except DialogError TurnStatus)
  /-- Hooks after the end are called. -/
  | after (called : List AfterHook) (result : DialogResult)

namespace Dialog

variable {η : Type} (d : Dialog) (host : (r : Request) → η → Option (r.Answer × η))

/-- What is said before the hooks of a thread are called. -/
def prefaceBefore (cursor : Location) : SessionM Unit := do
  note (.enteringThread d.id cursor.thread)
  note (.runningBeforeHooks d.id cursor.thread)

/-- What is said before the hooks on an answer are called. -/
def prefaceChange (key : String) (answer : Json) : SessionM Unit :=
  note (.runningChangeHooks d.id key answer)

/-- What is said before the hooks after the end are called. -/
def prefaceAfter (result : DialogResult) : SessionM Unit :=
  note (.runningAfterHooks d.id result.status)

/-- Those items that are called in turn behind a preface. -/
def calledBehind {α σ : Type} (preface : SessionM Unit) (call : α → StatefulAttempt σ Unit)
    (start : Session → σ) (items : List α) (s : Session) (w : η) : List α :=
  match runWith host preface s w with
  | some ((.ok _, s'), w') => calledInTurn host call items (start s') w'
  | _ => []

/-- Where a computation leaves the cursor, if it does not fail. -/
def leftBy (x : SessionM Location) (s : Session) (w : η) : Option Location :=
  (runWith host x s w).bind fun y => y.1.1.toOption

/-- Ask the host to end the active dialog, and tell what it says. -/
def askToFinish (result : Option DialogResult) : SessionM (Except DialogError TurnStatus) :=
  HostM.request (.finish result)

/-- End the active dialog, and tell what the host was asked and what it says. -/
def ending : SessionM (Option DialogResult × Except DialogError TurnStatus) := do
  modify Session.ended
  match ← (Attempt.active : SessionM _) with
  | some _ =>
    let s ← get
    note (.dialogEnded d.id s.status)
    return (some s.result, ← askToFinish (some s.result))
  | none => return (none, ← askToFinish none)

/-- What is done at a stage. -/
def deed? (t : Stage η) : Option Deed :=
  match t.spot with
  | .arriving (_ + 1) cursor input => some (.arrives cursor input)
  | .entering _ _ p =>
    some (.before
      (calledBehind host (d.prefaceBefore p.cursor) (fun hook => hook) (⟨p.cursor, ·.values⟩)
        (d.hooks.beforeThread p.cursor.thread) t.session t.host)
      (leftBy host (d.enter p.cursor) t.session t.host))
  | .settling _ lines p =>
    match p.answer, collectBefore lines p.cursor.index with
    | some answer, some collect => collect.key.map fun key => .captures key answer
    | _, _ => none
  | .announcing _ _ p answer _ key =>
    some (.changes
      (calledBehind host (d.prefaceChange key answer) (fun hook => hook answer)
        (⟨p.cursor, ·.values⟩) (d.hooks.onChange key) t.session t.host)
      answer (leftBy host (d.announceChange p.cursor key answer) t.session t.host))
  | .selecting _ _ _ answer collect => (collect.select answer).map .handles
  | .performing _ cursor line => some (.performs cursor line)
  | .dispatching _ cursor action none => some (.dispatches cursor action)
  | .closing =>
    (runWith host d.ending t.session t.host).bind fun y =>
      y.1.1.toOption.map fun x => .finishes x.1 x.2
  | .parting result =>
    some (.after
      (calledBehind host (d.prefaceAfter result) (fun hook => liftM (hook result)) (fun s => s)
        d.hooks.after t.session t.host)
      result)
  | .starting _ | .arriving 0 _ _ | .handling .. | .dispatching _ _ _ (some _) | .checking ..
  | .returned _ => none

variable {d host}

/-- What may be done at a spot. -/
inductive Does : Spot → Deed → Prop where
  | arrives (left : ℕ) (cursor : Location) (input : Option TurnInput) :
      Does (.arriving (left + 1) cursor input) (.arrives cursor input)
  | before (left : ℕ) (lines : List Line) (p : Pass) (called : List BeforeHook)
      (moved : Option Location) : Does (.entering left lines p) (.before called moved)
  | captures {left : ℕ} {lines : List Line} {p : Pass} {answer : Json} {collect : Collect}
      {key : String} (hanswer : p.answer = some answer)
      (hcollect : collectBefore lines p.cursor.index = some collect)
      (hkey : collect.key = some key) : Does (.settling left lines p) (.captures key answer)
  | changes (left : ℕ) (lines : List Line) (p : Pass) (answer : Json) (collect : Collect)
      (key : String) (called : List ChangeHook) (moved : Option Location) :
      Does (.announcing left lines p answer collect key) (.changes called answer moved)
  | handles {left : ℕ} {lines : List Line} {p : Pass} {answer : Json} {collect : Collect}
      {handler : Handler} (hselect : collect.select answer = some handler) :
      Does (.selecting left lines p answer collect) (.handles handler)
  | performs (left : ℕ) (cursor : Location) (line : Line) :
      Does (.performing left cursor line) (.performs cursor line)
  | dispatches (left : ℕ) (cursor : Location) (action : Action) :
      Does (.dispatching left cursor action none) (.dispatches cursor action)
  | finishes (result : Option DialogResult) (answer : Except DialogError TurnStatus) :
      Does .closing (.finishes result answer)
  | after (result : DialogResult) (called : List AfterHook) :
      Does (.parting result) (.after called result)

/-- **What is done at a stage** is one thing for each kind of spot. -/
theorem does_of_deed? {t : Stage η} {deed : Deed} (h : d.deed? host t = some deed) :
    Does t.spot deed := by
  obtain ⟨spot, s, w⟩ := t
  cases spot with
  | arriving left cursor input =>
    cases left with
    | zero => cases h
    | succ left =>
      obtain rfl := Option.some.inj h
      exact .arrives left cursor input
  | entering left lines p =>
    obtain rfl := Option.some.inj h
    exact .before left lines p _ _
  | settling left lines p =>
    rw [deed?] at h
    dsimp only at h
    split at h
    · next answer collect hanswer hcollect =>
      obtain ⟨key, hkey, rfl⟩ := Option.map_eq_some_iff.1 h
      exact .captures hanswer hcollect hkey
    · cases h
  | announcing left lines p answer collect key =>
    obtain rfl := Option.some.inj h
    exact .changes left lines p answer collect key _ _
  | selecting left lines p answer collect =>
    obtain ⟨handler, hselect, rfl⟩ := Option.map_eq_some_iff.1 h
    exact .handles hselect
  | performing left cursor line =>
    obtain rfl := Option.some.inj h
    exact .performs left cursor line
  | dispatching left cursor action handled =>
    cases handled with
    | some lines => cases h
    | none =>
      obtain rfl := Option.some.inj h
      exact .dispatches left cursor action
  | closing =>
    obtain ⟨y, -, hfinishes⟩ := Option.bind_eq_some_iff.1 h
    obtain ⟨x, -, rfl⟩ := Option.map_eq_some_iff.1 hfinishes
    exact .finishes x.1 x.2
  | parting result =>
    obtain rfl := Option.some.inj h
    exact .after result _
  | starting | handling | checking | returned => cases h

/-! ### Who has been called -/

theorem runWith_converse (cursor : Location) (callbacks : List (ConvoM Unit)) (s : Session)
    (w : η) :
    runWith host (converse cursor callbacks) s w =
      (runWith host (forM callbacks fun callback => callback) ⟨cursor, s.values⟩ w).map fun y =>
        ((y.1.1.map fun _ => y.1.2.cursor, { s with values := y.1.2.vars }), y.2) := by
  refine (runWith_bind_of_ok rfl _).trans ?_
  rw [runWith_bind, runWith_liftHost]
  show Option.bind (Option.map _ (runWith host (forM callbacks fun callback => callback)
    ⟨cursor, s.values⟩ w)) _ = _
  cases runWith host (forM callbacks fun callback => callback) ⟨cursor, s.values⟩ w with
  | none => rfl
  | some y =>
    obtain ⟨⟨o, convo⟩, w'⟩ := y
    cases o <;> rfl

section

variable {α : Type} {preface : SessionM Unit} {items : List α} {s s' : Session} {w w' : η}

theorem prefix_calledBehind {σ : Type} (call : α → StatefulAttempt σ Unit) (start : Session → σ) :
    calledBehind host preface call start items s w <+: items := by
  unfold calledBehind
  split
  · exact prefix_calledInTurn _ _ _
  · exact List.nil_prefix

theorem calledBehind_eq {call : α → ConvoM Unit} {cursor moved : Location}
    (h : runWith host (preface >>= fun _ => converse cursor (items.map call)) s w =
      some ((.ok moved, s'), w')) :
    calledBehind host preface call (⟨cursor, ·.values⟩) items s w = items := by
  obtain ⟨_, s₁, w₁, hpreface, hconverse⟩ := exists_of_runWith_bind h
  rw [runWith_converse] at hconverse
  obtain ⟨⟨⟨o, convo⟩, w₂⟩, hall, heq⟩ := Option.map_eq_some_iff.1 hconverse
  cases o with
  | error e => cases heq
  | ok _ =>
    rw [List.forM_map] at hall
    rw [calledBehind, hpreface]
    exact calledInTurn_eq hall

end

/-! ### Where hooks leave a run -/

section

variable {t t' : Stage η} {budget : ℕ} {lines : List Line} {p : Pass}

/-- Where a pass goes on once hooks have left the cursor somewhere. -/
def afterHooks (budget : ℕ) (cursor : Location) (spot : Spot) :
    Except DialogError Location → Spot
  | .ok moved => if moved ≠ cursor then .arriving budget moved none else spot
  | .error e => .returned (.error e)

/-- A stride that calls hooks leads to where they leave the cursor. -/
theorem exists_of_hooks {x : SessionM Location} {spot : Spot}
    (hspot : ∀ outcome, t.spot ≠ .returned outcome)
    (hstride : d.stride t.spot = x >>= fun moved =>
      if moved ≠ p.cursor then pure (.arriving budget moved none) else pure spot)
    (h : d.next? host t = some t') :
    ∃ o, runWith host x t.session t.host = some ((o, t'.session), t'.host) ∧
      t'.spot = afterHooks budget p.cursor spot o := by
  have hrun : d.next? host t = (runWith host x t.session t.host).map fun y =>
      ⟨afterHooks budget p.cursor spot y.1.1, y.1.2, y.2⟩ := by
    have hpure : (x >>= fun moved =>
        if moved ≠ p.cursor then pure (.arriving budget moved none) else pure spot) =
        x >>= fun moved => pure (afterHooks budget p.cursor spot (.ok moved)) := by
      refine bind_congr fun moved => ?_
      rw [afterHooks]
      split <;> rfl
    rw [next?_eq hspot, hstride, hpure, runWith_map, Option.map_map]
    refine Option.map_congr fun y _ => ?_
    obtain ⟨⟨o, s⟩, w⟩ := y
    cases o <;> rfl
  rw [hrun] at h
  obtain ⟨⟨⟨o, s⟩, w⟩, hx, rfl⟩ := Option.map_eq_some_iff.1 h
  exact ⟨o, hx, rfl⟩

/-- Hooks on a list are called at a line, and a run goes on from where they leave the cursor: if it
stays, at a spot of the same pass, and else with the next pass. -/
inductive HooksLead {α : Type} (hooks : List α) (budget : ℕ) (cursor : Location) (spot : Spot) :
    List α → Option Location → Spot → Prop where
  | failed {called : List α} (h : called <+: hooks) (e : DialogError) :
      HooksLead hooks budget cursor spot called none (.returned (.error e))
  | moved {moved : Location} (h : moved ≠ cursor) :
      HooksLead hooks budget cursor spot hooks (some moved) (.arriving budget moved none)
  | stayed : HooksLead hooks budget cursor spot hooks (some cursor) spot

theorem hooksLead_afterHooks {α : Type} {hooks called : List α} {spot : Spot}
    {o : Except DialogError Location} (hbegins : called <+: hooks)
    (hall : ∀ moved, o = .ok moved → called = hooks) :
    HooksLead hooks budget p.cursor spot called o.toOption (afterHooks budget p.cursor spot o) := by
  cases o with
  | error e => exact .failed hbegins e
  | ok moved =>
    rw [hall moved rfl, afterHooks]
    by_cases hmoved : moved = p.cursor
    · rw [if_neg (not_not.2 hmoved), hmoved]
      exact .stayed
    · rw [if_pos hmoved]
      exact .moved hmoved

variable {s : Session} {w : η}

/-- The hooks before a thread are called. -/
theorem exists_before_of_next? (h : d.next? host ⟨.entering budget lines p, s, w⟩ = some t') :
    ∃ called left, d.deed? host ⟨.entering budget lines p, s, w⟩ = some (.before called left) ∧
      HooksLead (d.hooks.beforeThread p.cursor.thread) budget p.cursor (.settling budget lines p)
        called left t'.spot := by
  obtain ⟨o, hrun, hspot⟩ := exists_of_hooks (x := d.enter p.cursor) (fun _ h => by cases h) rfl h
  have hleft : leftBy host (d.enter p.cursor) s w = o.toOption := by
    rw [leftBy, hrun, Option.bind_some]
  refine ⟨_, _, rfl, ?_⟩
  rw [hspot, hleft]
  refine hooksLead_afterHooks (prefix_calledBehind _ _) fun moved ho => ?_
  subst ho
  cases hhooks : d.hooks.beforeThread p.cursor.thread with
  | nil => exact List.prefix_nil.1 (prefix_calledBehind _ _)
  | cons hook hooks =>
    have hcalled : runWith host (d.prefaceBefore p.cursor >>= fun _ =>
        converse p.cursor ((hook :: hooks).map fun hook => hook)) s w =
          some ((.ok moved, t'.session), t'.host) := by
      rw [List.map_id', ← hhooks, ← hrun, enter, hhooks, prefaceBefore, bind_assoc]
    exact calledBehind_eq hcalled

/-- The hooks on an answer are called. -/
theorem exists_changes_of_next? {answer : Json} {collect : Collect} {key : String}
    (h : d.next? host ⟨.announcing budget lines p answer collect key, s, w⟩ = some t') :
    ∃ called left, d.deed? host ⟨.announcing budget lines p answer collect key, s, w⟩ =
        some (.changes called answer left) ∧
      HooksLead (d.hooks.onChange key) budget p.cursor (.selecting budget lines p answer collect)
        called left t'.spot := by
  obtain ⟨o, hrun, hspot⟩ :=
    exists_of_hooks (x := d.announceChange p.cursor key answer) (fun _ h => by cases h) rfl h
  have hleft : leftBy host (d.announceChange p.cursor key answer) s w = o.toOption := by
    rw [leftBy, hrun, Option.bind_some]
  refine ⟨_, _, rfl, ?_⟩
  rw [hspot, hleft]
  refine hooksLead_afterHooks (prefix_calledBehind _ _) fun moved ho => ?_
  subst ho
  cases hhooks : d.hooks.onChange key with
  | nil => exact List.prefix_nil.1 (prefix_calledBehind _ _)
  | cons hook hooks =>
    have hcalled : runWith host (d.prefaceChange key answer >>= fun _ =>
        converse p.cursor ((hook :: hooks).map fun hook => hook answer)) s w =
          some ((.ok moved, t'.session), t'.host) := by
      rw [← hrun, announceChange, hhooks]
      rfl
    exact calledBehind_eq hcalled

/-! ### The end -/

theorem finish_eq (result : Option DialogResult) :
    (Attempt.finish result : SessionM TurnStatus) = askToFinish result >>= liftExcept := by
  refine funext fun s => congrArg (HostM.ask (.finish result)) (funext fun answer => ?_)
  cases answer <;> rfl

theorem runWith_askToFinish (result : Option DialogResult) (s : Session) (w : η) :
    runWith host (askToFinish result) s w =
      (host (.finish result) w).map fun y => ((.ok y.1, s), y.2) := by
  refine (runWith_liftHost (HostM.request (.finish result)) s w).trans ?_
  show Option.map _ ((host (.finish result) w).bind fun x => some (x.1, x.2)) = _
  cases host (.finish result) w <;> rfl

/-- **A dialog that ends asks its host first**, and then sees what it says. -/
theorem stride_closing :
    d.stride .closing = d.ending >>= fun x => do
      let _ ← (liftExcept x.2 : SessionM TurnStatus)
      match x.1 with
      | some result => return .parting result
      | none => return .returned (.ok .complete) := by
  simp only [stride, ending, bind_assoc]
  refine bind_congr fun _ => bind_congr fun active => ?_
  cases active with
  | none => simp only [bind_assoc, pure_bind, finish_eq]
  | some active => simp only [bind_assoc, pure_bind, finish_eq]

theorem always_ending (s : Session) :
    (d.ending.run.run s).Always fun y => ∃ x, y.1 = .ok x := by
  intro active
  cases active with
  | none => exact fun _ => ⟨_, rfl⟩
  | some active => exact fun _ _ => ⟨_, rfl⟩

/-- The host is asked to end the dialog, and the hooks after the end come only if it has. -/
theorem exists_finishes_of_next? (h : d.next? host ⟨.closing, s, w⟩ = some t') :
    ∃ result answer, d.deed? host ⟨.closing, s, w⟩ = some (.finishes result answer) ∧
      t'.spot = match answer, result with
        | .error e, _ => .returned (.error e)
        | .ok _, some result => .parting result
        | .ok _, none => .returned (.ok .complete) := by
  obtain ⟨o, hrun, hspot⟩ := exists_runWith_of_next? h
  rw [stride_closing, runWith_bind] at hrun
  obtain ⟨⟨⟨o₁, s₁⟩, w₁⟩, hending, hrun⟩ := Option.bind_eq_some_iff.1 hrun
  obtain ⟨⟨result, answer⟩, rfl⟩ := (d.always_ending s).run hending
  refine ⟨result, answer, ?_, ?_⟩
  · show (runWith host d.ending s w).bind _ = _
    rw [hending]
    rfl
  · rw [hspot]
    cases answer with
    | error e =>
      obtain rfl := congrArg (fun x => x.1.1) (Option.some.inj hrun)
      rfl
    | ok status =>
      cases result with
      | none =>
        obtain rfl := congrArg (fun x => x.1.1) (Option.some.inj hrun)
        rfl
      | some result =>
        obtain rfl := congrArg (fun x => x.1.1) (Option.some.inj hrun)
        rfl

/-- What is said before the hooks after the end are called is said in any case. -/
theorem always_prefaceAfter (result : DialogResult) (s : Session) :
    ((d.prefaceAfter result).run.run s).Always fun y => y.1 = .ok () := fun _ => rfl

/-- The hooks after the end are called: all of them, unless one fails. -/
theorem exists_after_of_next? {result : DialogResult}
    (h : d.next? host ⟨.parting result, s, w⟩ = some t') :
    ∃ called, d.deed? host ⟨.parting result, s, w⟩ = some (.after called result) ∧
      called <+: d.hooks.after ∧
      (called = d.hooks.after ∧ t'.spot = .returned (.ok .complete) ∨
        ∃ hook ∈ d.hooks.after, ∃ w₁ e, t'.spot = .returned (.error e) ∧
          HostM.run host (hook result).run w₁ = some (.error e, t'.host)) := by
  refine ⟨_, rfl, prefix_calledBehind _ _, ?_⟩
  obtain ⟨o, hrun, hspot⟩ := exists_runWith_of_next? h
  have hstride : d.stride (.parting result) = d.announceEnd result >>= fun _ =>
    pure (.returned (.ok .complete)) := rfl
  rw [hstride, runWith_map] at hrun
  obtain ⟨⟨⟨o₁, s₁⟩, w₁⟩, hend, heq⟩ := Option.map_eq_some_iff.1 hrun
  obtain ⟨heq, hhost⟩ := Prod.mk.inj heq
  obtain rfl : o₁.map _ = o := (Prod.mk.inj heq).1
  cases hhooks : d.hooks.after with
  | nil =>
    rw [announceEnd, hhooks] at hend
    obtain ⟨rfl, -⟩ := Prod.mk.inj (Prod.mk.inj (Option.some.inj hend)).1
    exact .inl ⟨List.prefix_nil.1 (prefix_calledBehind _ _), hspot⟩
  | cons hook hooks =>
    have hannounce : d.announceEnd result = d.prefaceAfter result >>= fun _ =>
        forM (hook :: hooks) fun hook => (liftM (hook result) : SessionM Unit) := by
      rw [announceEnd, hhooks]
      rfl
    rw [hannounce, runWith_bind] at hend
    obtain ⟨⟨⟨o₂, s₂⟩, w₂⟩, hpreface, hall⟩ := Option.bind_eq_some_iff.1 hend
    obtain rfl := (d.always_prefaceAfter result s).run hpreface
    cases o₁ with
    | ok _ =>
      refine .inl ⟨?_, hspot⟩
      rw [calledBehind, hpreface]
      exact calledInTurn_eq hall
    | error e =>
      obtain ⟨failed, hmem, s₃, w₃, hfailed⟩ := exists_error_of_forM hall
      rw [runWith_liftM] at hfailed
      obtain ⟨⟨o₃, w₄⟩, hran, hlifted⟩ := Option.map_eq_some_iff.1 hfailed
      obtain ⟨hpair, rfl⟩ := Prod.mk.inj hlifted
      obtain rfl := (Prod.mk.inj hpair).1
      exact .inr ⟨failed, hmem, w₃, e, hspot, hhost ▸ hran⟩

end

end Dialog

end Parley

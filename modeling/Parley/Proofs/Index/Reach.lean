import Parley.Proofs.Course.Place
import Parley.Proofs.Index.Steering

/-!
# How far a run gets

A run that goes on with a session begins where the session goes on.  From there it goes to the next
line, if there is a line where it stands, back, or to the first line of a thread.  So it comes to
places of three kinds only (`Dialog.Reaches`): first lines, places in a thread that is there, at
most one behind its last line, and places in the thread of the session, at most as far as where it
went on, for which there has to be a number behind the line where it stood.  All of this is for
dialogs whose callbacks steer.

* `Dialog.ensures_within` : from spot to spot a run stays within these places.
* `Dialog.within_of_leads` : so it does in its whole course.
* `Dialog.always_leaves` : so it leaves its session at such a place, whether it fails or not.
-/

namespace Parley

open Stepping StatefulAttempt

namespace Dialog

variable (d : Dialog) (s₀ : Session)

theorem hasThread_iff_exists {thread : String} :
    d.hasThread thread = true ↔ ∃ lines, d.script.thread? thread = some lines :=
  Option.isSome_iff_exists

/-- The places that a run comes to that goes on with a session. -/
def Reaches (l : Location) : Prop :=
  l.index = 0 ∨
    (∃ lines, d.script.thread? l.thread = some lines ∧ l.index ≤ lines.length) ∨
    s₀.HasNext ∧ l.thread = s₀.thread ∧ l.index ≤ s₀.resumePoint

/-- How a run leaves a session that it goes on with. -/
inductive Leaves (s : Session) : Prop where
  /-- It has done nothing. -/
  | unmoved (hplace : s.location = s₀.location) (hresume : s.resumeIndex = s₀.resumeIndex)
  /-- It has no budget. -/
  | guarded (hsteps : d.options.maxSteps = 0) (hplace : s.location = s₀.location)
      (hresume : s.resumeIndex = none)
  | moved (hsteps : d.options.maxSteps ≠ 0) (hplace : d.Reaches s₀ s.location)
      (hresume : ∀ r ∈ s.resumeIndex, d.hasThread s.thread = true ∧ d.Reaches s₀ ⟨s.thread, r⟩)

variable {d s₀} {cursor next : Location} {s : Session}

namespace Reaches

theorem recedes (h : d.Reaches s₀ cursor) (hback : cursor.Recedes next) : d.Reaches s₀ next := by
  rcases hback with hfirst | ⟨hthread, hle⟩
  · exact .inl hfirst
  · rcases h with hfirst | ⟨lines, hlines, hindex⟩ | ⟨hnext, hsame, hindex⟩
    · exact .inl (Nat.le_zero.1 (hfirst ▸ hle))
    · exact .inr (.inl ⟨lines, hthread ▸ hlines, Nat.le_trans hle hindex⟩)
    · exact .inr (.inr ⟨hnext, hthread.trans hsame, Nat.le_trans hle hindex⟩)

theorem behind {lines : List Line} (hlines : d.script.thread? cursor.thread = some lines)
    (hindex : cursor.index < lines.length) : d.Reaches s₀ ⟨cursor.thread, cursor.index + 1⟩ :=
  .inr (.inl ⟨lines, hlines, hindex⟩)

end Reaches

/-- A run that stops where it stands leaves its session there. -/
theorem leaves_of_stands (hsteps : d.options.maxSteps ≠ 0) (hreaches : d.Reaches s₀ cursor)
    (h : s.Stands cursor) : d.Leaves s₀ s := by
  obtain ⟨rfl, hresume⟩ := h
  refine .moved hsteps hreaches fun r hr => ?_
  rw [hresume] at hr
  cases hr

end Dialog

/-- A run stays within the places that it reaches. -/
def Spot.Within (d : Dialog) (s₀ : Session) : Spot → Session → Prop
  | starting task, s => s = s₀ ∧ (task = .begin → s₀.resumeIndex = none)
  | arriving budget cursor _, s =>
    d.Reaches s₀ cursor ∧ s.resumeIndex = none ∧
      (s.location = s₀.location ∧ (budget = 0 → d.options.maxSteps = 0) ∨
        d.options.maxSteps ≠ 0 ∧ d.Reaches s₀ s.location)
  | entering _ _ p, s | settling _ _ p, s | announcing _ _ p .., s | selecting _ _ p .., s
  | handling _ _ p _, s => d.Reaches s₀ p.cursor ∧ s.Stands p.cursor
  | checking _ _ cursor, s | performing _ cursor _, s => d.Reaches s₀ cursor ∧ s.Stands cursor
  | dispatching _ cursor _ handled, s =>
    d.Reaches s₀ cursor ∧ s.Stands cursor ∧
      ∃ lines, d.script.thread? cursor.thread = some lines ∧
        (handled = none → cursor.index < lines.length)
  | closing, s | parting _, s | returned _, s => d.Leaves s₀ s

namespace Dialog

variable {d : Dialog} {s₀ : Session} {cursor : Location} {budget : ℕ}

/-! ### Callbacks -/

theorem ensures_converse {at_ : Location} {callbacks : List (ConvoM Unit)}
    (h : ∀ callback ∈ callbacks, Parley.Steers callback) :
    Ensures (Session.Stands cursor) (converse at_ callbacks)
      (fun moved s => at_.Recedes moved ∧ s.Stands cursor) (Session.Stands cursor) := by
  refine .get_bind fun s hs => ?_
  have hall : ((callbacks.forM fun callback => callback : ConvoM Unit).run.run
      ⟨at_, s.values⟩).Always fun y => at_.Recedes y.2.cursor :=
    steers_forM h at_ _ (.refl at_)
  refine .liftHost_bind hall fun y hy => ?_
  have hset : Ensures (· = s) (set { s with values := y.2.vars } : SessionM PUnit)
      (fun _ s => s.Stands cursor) (Session.Stands cursor) :=
    fun _ _ => ⟨hs.location, hs.resumeIndex⟩
  refine hset.bind fun _ => ?_
  obtain ⟨o, convo⟩ := y
  cases o with
  | ok _ => exact .pure fun s hs => ⟨hy, hs⟩
  | error e => exact .throw e fun s hs => hs

namespace Steers

variable (h : d.Steers)

include h

theorem ensures_enter :
    Ensures (Session.Stands cursor) (d.enter cursor)
      (fun moved s => cursor.Recedes moved ∧ s.Stands cursor) (Session.Stands cursor) := by
  have hhooks : ∀ hook ∈ d.hooks.beforeThread cursor.thread, Parley.Steers hook := by
    intro hook hhook
    obtain ⟨entry, hentry, rfl⟩ := List.mem_map.1 hhook
    exact h.before entry (List.mem_of_mem_filter hentry)
  refine .of_retains (.liftM _) (fun _ hs => hs) fun _ => ?_
  split
  · exact .pure fun s hs => ⟨.refl cursor, hs⟩
  · exact .of_retains (.liftM _) (fun _ hs => hs) fun _ => ensures_converse hhooks

theorem ensures_announceChange (key : String) (answer : Json) :
    Ensures (Session.Stands cursor) (d.announceChange cursor key answer)
      (fun moved s => cursor.Recedes moved ∧ s.Stands cursor) (Session.Stands cursor) := by
  have hhooks : ∀ callback ∈ (d.hooks.onChange key).map (· answer), Parley.Steers callback := by
    intro callback hcallback
    obtain ⟨hook, hhook, rfl⟩ := List.mem_map.1 hcallback
    obtain ⟨entry, hentry, rfl⟩ := List.mem_map.1 hhook
    exact h.change entry (List.mem_of_mem_filter hentry) answer
  unfold announceChange
  split
  · exact .pure fun s hs => ⟨.refl cursor, hs⟩
  · exact .of_retains (.liftM _) (fun _ hs => hs) fun _ => ensures_converse hhooks

omit h in
theorem ensures_handle {p : Pass} {callback : HandlerCallback}
    (hcallback : ∀ text activity, Parley.Steers (callback text activity)) :
    Ensures (Session.Stands cursor) (d.handle p { callback := some callback })
      (fun flow s => (∀ next, flow = some (.jump next) → p.cursor.Recedes next) ∧
        flow ≠ some .advance ∧ s.Stands cursor) (Session.Stands cursor) := by
  refine .of_retains (.liftM _) (fun _ hs => hs) fun active => ?_
  refine (ensures_converse (List.forall_mem_singleton.2 (hcallback _ _))).bind fun moved => ?_
  refine .of_retains (.liftM _) (fun _ hs => hs.2) fun current => ?_
  cases current with
  | none => exact .pure fun s hs => ⟨nofun, nofun, hs.2⟩
  | some current =>
    dsimp only
    split
    · exact .of_retains (.liftM _) (fun _ hs => hs.2) fun _ =>
        .pure fun s hs => ⟨nofun, nofun, hs.2⟩
    · split
      · refine .pure fun s hs => ⟨fun next hnext => ?_, nofun, hs.2⟩
        cases hnext
        exact hs.1
      · exact .pure fun s hs => ⟨nofun, nofun, hs.2⟩

end Steers

/-! ### Flows and actions -/

theorem ensures_ofFlow (flow : Flow) (hsteps : d.options.maxSteps ≠ 0)
    (hreaches : d.Reaches s₀ cursor) (hjump : ∀ next, flow = .jump next → d.Reaches s₀ next)
    (hadvance : flow = .advance → d.Reaches s₀ ⟨cursor.thread, cursor.index + 1⟩) :
    Ensures (Session.Stands cursor) (Spot.ofFlow budget flow) (Spot.Within d s₀) (d.Leaves s₀) := by
  have harriving {next : Location} (hnext : d.Reaches s₀ next) {s : Session}
      (hs : s.Stands cursor) : Spot.Within d s₀ (.arriving budget next none) s :=
    ⟨hnext, hs.resumeIndex, .inr ⟨hsteps, hs.location.symm ▸ hreaches⟩⟩
  cases flow with
  | stop status => exact .pure fun s hs => leaves_of_stands hsteps hreaches hs
  | jump next => exact .pure fun s hs => harriving (hjump next rfl) hs
  | advance =>
    refine .get_bind fun s hs => .pure fun s' hs' => ?_
    obtain rfl : s' = s := hs'
    have hplace :
        (⟨s'.thread, s'.stepIndex + 1⟩ : Location) = ⟨cursor.thread, cursor.index + 1⟩ := by
      rw [← hs.location]
      rfl
    exact hplace ▸ harriving (hadvance rfl) hs

theorem ensures_dispatch {action : Action} (hending : action.ending? = none) {lines : List Line}
    (hlines : d.script.thread? cursor.thread = some lines) (hsteps : d.options.maxSteps ≠ 0)
    (hreaches : d.Reaches s₀ cursor) :
    Ensures (Session.Stands cursor) (d.dispatch cursor action)
      (fun flow s => s.Stands cursor ∧ flow ≠ some .advance ∧
          (∀ next, flow = some (.jump next) → d.Reaches s₀ next) ∨
        flow = some (.stop .waiting) ∧ d.Leaves s₀ s) (d.Leaves s₀) := by
  have hleaves (s : Session) (hs : s.Stands cursor) : d.Leaves s₀ s :=
    leaves_of_stands hsteps hreaches hs
  have hback : d.Reaches s₀ { cursor with index := cursor.index - 1 } :=
    hreaches.recedes (.inr ⟨rfl, Nat.sub_le _ _⟩)
  refine .of_retains (.liftM _) hleaves fun _ => ?_
  cases action with
  | complete | stop | timeout => cases hending
  | next => exact .pure fun s hs => .inl ⟨hs, nofun, nofun⟩
  | repeatLine =>
    refine .pure fun s hs => .inl ⟨hs, nofun, fun next hnext => ?_⟩
    cases hnext
    exact hback
  | wait =>
    have hthread : d.hasThread cursor.thread = true := d.hasThread_iff_exists.2 ⟨lines, hlines⟩
    have hmodify : Ensures (Session.Stands cursor)
        (modify fun s => { s with resumeIndex := some cursor.index } : SessionM PUnit)
        (fun _ s => d.Leaves s₀ s) (d.Leaves s₀) := by
      refine .modify fun s hs => ?_
      obtain ⟨rfl, hresume⟩ := hs
      refine .moved hsteps hreaches fun r hr => ?_
      obtain rfl := Option.some.inj hr
      exact ⟨hthread, hreaches⟩
    exact hmodify.bind fun _ => .pure fun s hs => .inr ⟨rfl, hs⟩
  | executeScript execute | beginDialog execute =>
    refine .of_retains .get hleaves fun s => .of_retains (.liftM _) hleaves fun _ => ?_
    exact .pure fun s hs => .inr ⟨rfl, hleaves s hs⟩
  | thread name =>
    dsimp only
    split
    · refine .pure fun s hs => .inl ⟨hs, nofun, fun next hnext => ?_⟩
      cases hnext
      exact .inl rfl
    · exact .of_retains (.liftM _) hleaves fun _ => .pure fun s hs => .inl ⟨hs, nofun, nofun⟩

theorem ensures_ofSettled {lines : List Line} {settled : Option Flow}
    (hsteps : d.options.maxSteps ≠ 0) (hreaches : d.Reaches s₀ cursor)
    (hjump : ∀ next, settled = some (.jump next) → d.Reaches s₀ next)
    (hadvance : settled ≠ some .advance) :
    Ensures (Session.Stands cursor) (Spot.ofSettled budget lines cursor settled)
      (Spot.Within d s₀) (d.Leaves s₀) := by
  cases settled with
  | none => exact .pure fun s hs => ⟨hreaches, hs⟩
  | some flow =>
    exact ensures_ofFlow _ hsteps hreaches (fun next h => hjump next (congrArg some h)) fun h =>
      absurd (congrArg some h) hadvance

theorem ensures_ofAction {lines : List Line} (action : Option Action)
    (hsteps : d.options.maxSteps ≠ 0) (hreaches : d.Reaches s₀ cursor)
    (hlines : d.script.thread? cursor.thread = some lines) (hindex : cursor.index < lines.length) :
    Ensures (Session.Stands cursor) (Spot.ofAction budget cursor action) (Spot.Within d s₀)
      (d.Leaves s₀) := by
  cases action with
  | some action => exact .pure fun s hs => ⟨hreaches, hs, lines, hlines, fun _ => hindex⟩
  | none => exact ensures_ofFlow .advance hsteps hreaches (fun _ h => by cases h) fun _ =>
      .behind hlines hindex

/-! ### Strides -/

theorem Leaves.congr {s s' : Session} (h : d.Leaves s₀ s) (hplace : s'.location = s.location)
    (hresume : s'.resumeIndex = s.resumeIndex) : d.Leaves s₀ s' := by
  have hthread : s'.thread = s.thread := congrArg Location.thread hplace
  cases h with
  | unmoved hplace' hresume' => exact .unmoved (hplace.trans hplace') (hresume.trans hresume')
  | guarded hsteps hplace' hresume' =>
    exact .guarded hsteps (hplace.trans hplace') (hresume.trans hresume')
  | moved hsteps hplace' hresume' =>
    refine .moved hsteps (hplace ▸ hplace') fun r hr => ?_
    rw [hthread]
    exact hresume' r (hresume ▸ hr)

theorem ensures_resuming (input : Option TurnInput) :
    Ensures (· = s₀) (d.resuming input) (Spot.Within d s₀) (d.Leaves s₀) := by
  refine .get_bind fun s hs => ?_
  subst hs
  split
  case isTrue hnext =>
    rintro _ -
    exact ⟨.inr (.inr ⟨hnext, rfl, Nat.le_refl _⟩), rfl, .inl ⟨rfl, fun h => h⟩⟩
  case isFalse => exact fun _ _ => trivial

theorem ensures_begin (hresume : s₀.resumeIndex = none) :
    Ensures (· = s₀) (d.stride (.starting .begin)) (Spot.Within d s₀) (d.Leaves s₀) := by
  let P (s : Session) : Prop := s.location = s₀.location ∧ s.resumeIndex = s₀.resumeIndex
  have hleaves (s : Session) (hs : P s) : d.Leaves s₀ s := .unmoved hs.1 hs.2
  have hvalues : Retains P
      (modify fun s => { s with values := s.options.values, status := .running } :
        SessionM PUnit) := .modify fun _ hs => hs
  have hrng (seed : UInt32) : Retains P (modify fun s => { s with rngState := seed } :
      SessionM PUnit) := .modify fun _ hs => hs
  have harriving : Ensures P (do return Spot.arriving d.options.maxSteps ⟨(← get).thread, 0⟩ none)
      (Spot.Within d s₀) (d.Leaves s₀) := .of_retains .get hleaves fun _ => .pure fun s hs =>
    ⟨.inl rfl, hs.2.trans hresume, .inl ⟨hs.1, fun h => h⟩⟩
  suffices hall : Ensures P (d.stride (.starting .begin)) (Spot.Within d s₀) (d.Leaves s₀) from
    hall.strengthen fun s hs => hs ▸ ⟨rfl, rfl⟩
  refine .of_retains hvalues hleaves fun _ => ?_
  cases d.options.seed with
  | some seed =>
    exact .of_retains (.pure seed) hleaves fun seed => .of_retains (hrng seed) hleaves fun _ =>
      harriving
  | none =>
    exact .of_retains (.liftM _) hleaves fun seed => .of_retains (hrng seed) hleaves fun _ =>
      harriving

theorem ensures_arriving {input : Option TurnInput}
    (hplaced : (Spot.arriving budget cursor input).Placed d) :
    Ensures ((Spot.arriving budget cursor input).Within d s₀)
      (d.stride (.arriving budget cursor input)) (Spot.Within d s₀) (d.Leaves s₀) := by
  cases budget with
  | zero =>
    refine .get_bind fun s hs => .throw _ fun s' hs' => ?_
    obtain rfl : s' = s := hs'
    -- either no pass has begun, or the session stands where the last one has left it
    obtain ⟨-, hresume, ⟨hplace, hsteps⟩ | ⟨hsteps, hreaches⟩⟩ := hs
    · exact .guarded (hsteps rfl) hplace hresume
    · exact leaves_of_stands hsteps hreaches ⟨rfl, hresume⟩
  | succ budget =>
    have hsteps : d.options.maxSteps ≠ 0 :=
      Nat.ne_of_gt (Nat.lt_of_lt_of_le (Nat.succ_pos budget) hplaced)
    refine .assuming fun hreaches => ?_
    refine Ensures.bind (Q := fun _ => Session.Stands cursor) (.modify fun _ hs => ⟨rfl, hs.1⟩)
      fun _ => ?_
    split
    · exact .throw _ fun s hs => leaves_of_stands hsteps hreaches hs
    · split <;> exact .pure fun s hs => ⟨hreaches, hs⟩

theorem ensures_performing {line : Line} (hplaced : (Spot.performing budget cursor line).Placed d)
    (hreaches : d.Reaches s₀ cursor) :
    Ensures (Session.Stands cursor) (d.stride (.performing budget cursor line)) (Spot.Within d s₀)
      (d.Leaves s₀) := by
  obtain ⟨hbudget, lines, hlines, hline⟩ := hplaced
  have hsteps : d.options.maxSteps ≠ 0 := Nat.ne_of_gt (Nat.zero_lt_of_lt hbudget)
  have hindex : cursor.index < lines.length := (List.getElem?_eq_some_iff.1 hline).1
  have hleaves (s : Session) (hs : s.Stands cursor) : d.Leaves s₀ s :=
    leaves_of_stands hsteps hreaches hs
  have haction (action : Option Action) :
      Ensures (Session.Stands cursor) (Spot.ofAction budget cursor action) (Spot.Within d s₀)
        (d.Leaves s₀) := ensures_ofAction action hsteps hreaches hlines hindex
  cases line with
  | question message collect =>
    have hstays : Retains (Session.Stands cursor) (d.prompt message) := d.retains_prompt message
    have hprompt := hstays.ensures (d.brings_prompt message)
    refine (hprompt.weaken (fun _ _ h => h) hleaves).bind fun flow => .assuming fun hflow => ?_
    refine ensures_ofFlow _ hsteps hreaches (fun next h => ?_) fun _ => .behind hlines hindex
    rcases hflow with rfl | rfl <;> cases h
  | message message action =>
    rw [stride]
    split
    · exact .of_retains (retains_emit message) hleaves fun _ => haction action
    · split
      · exact .of_retains (.liftM _) hleaves fun _ => haction action
      · exact haction action
  | action action => exact haction (some action)
  | childDialog execute collect => exact haction (some (.beginDialog execute))
  | next => exact ensures_ofFlow .advance hsteps hreaches (fun _ h => by cases h) fun _ =>
      .behind hlines hindex

theorem ensures_dispatching {action : Action} {handled : Option (List Line)}
    (hplaced : (Spot.dispatching budget cursor action handled).Placed d) :
    Ensures ((Spot.dispatching budget cursor action handled).Within d s₀)
      (d.stride (.dispatching budget cursor action handled)) (Spot.Within d s₀) (d.Leaves s₀) := by
  have hsteps : d.options.maxSteps ≠ 0 := Nat.ne_of_gt (Nat.zero_lt_of_lt hplaced.1)
  rintro s ⟨hreaches, hstands, lines, hlines, hindex⟩
  refine (?_ : Ensures (Session.Stands cursor) _ _ _) s hstands
  have hleaves (s : Session) (hs : s.Stands cursor) : d.Leaves s₀ s :=
    leaves_of_stands hsteps hreaches hs
  rw [stride]
  split
  · refine .of_retains (.liftM _) hleaves fun _ => ?_
    have hmodify (status : DialogStatus) : Retains (d.Leaves s₀)
        (modify fun s => { s with status := status } : SessionM PUnit) :=
      .modify fun s hs => hs.congr rfl rfl
    exact Ensures.strengthen
      (.of_retains (hmodify _) (fun _ hs => hs) fun _ => .pure fun _ hs => hs) hleaves
  case h_2 hending =>
    refine (ensures_dispatch hending hlines hsteps hreaches).bind fun flow => ?_
    rintro s (⟨hs, hadvance, hjump⟩ | ⟨rfl, hs⟩)
    · cases handled with
      | none =>
        refine ensures_ofFlow _ hsteps hreaches (fun next h => ?_)
          (fun _ => .behind hlines (hindex rfl)) s hs
        cases flow with
        | none => cases h
        | some flow => exact hjump next (congrArg some h)
      | some lines => exact ensures_ofSettled hsteps hreaches hjump hadvance s hs
    · cases handled <;> exact hs

/-- Callbacks have moved the cursor, and the run arrives where they have, or it goes on. -/
theorem ensures_moved {x : SessionM Location} {next : Spot} (hsteps : d.options.maxSteps ≠ 0)
    (hx : Ensures (Session.Stands cursor) x (fun moved s => cursor.Recedes moved ∧ s.Stands cursor)
      (Session.Stands cursor))
    (hreaches : d.Reaches s₀ cursor) (hnext : ∀ s, s.Stands cursor → next.Within d s₀ s) :
    Ensures (Session.Stands cursor)
      (do
        let moved ← x
        if moved ≠ cursor then return .arriving budget moved none else return next)
      (Spot.Within d s₀) (d.Leaves s₀) := by
  have hleaves (s : Session) (hs : s.Stands cursor) := leaves_of_stands hsteps hreaches hs
  refine (hx.weaken (fun _ _ h => h) hleaves).bind fun moved => .assuming fun hback => ?_
  split
  · exact .pure fun s hs => ⟨hreaches.recedes hback, hs.resumeIndex,
      .inr ⟨hsteps, hs.location.symm ▸ hreaches⟩⟩
  · exact .pure hnext

theorem ensures_settling {lines : List Line} {p : Pass} (hreaches : d.Reaches s₀ p.cursor) :
    Ensures (Session.Stands p.cursor) (d.stride (.settling budget lines p)) (Spot.Within d s₀)
      (d.Leaves s₀) := by
  have hpure {spot : Spot} (hspot : ∀ s, s.Stands p.cursor → spot.Within d s₀ s) :
      Ensures (Session.Stands p.cursor) (pure spot) (Spot.Within d s₀) (d.Leaves s₀) :=
    .pure hspot
  rw [stride]
  split
  · split
    · exact hpure fun s hs => ⟨hreaches, hs⟩
    · refine Ensures.bind (Q := fun _ => Session.Stands p.cursor)
        (.modify fun s hs => ⟨hs.location, hs.resumeIndex⟩) fun _ => ?_
      exact hpure fun s hs => ⟨hreaches, hs⟩
  · exact hpure fun s hs => ⟨hreaches, hs⟩

theorem ensures_selecting {lines : List Line} {p : Pass} {answer : Json} {collect : Collect}
    (hplaced : (Spot.selecting budget lines p answer collect).Placed d) :
    Ensures ((Spot.selecting budget lines p answer collect).Within d s₀)
      (d.stride (.selecting budget lines p answer collect)) (Spot.Within d s₀) (d.Leaves s₀) := by
  rw [stride]
  split
  · exact .pure fun s hs => hs
  · split
    · exact .pure fun s hs => hs
    · split
      · exact .pure fun s hs => ⟨hs.1, hs.2, lines, hplaced.2, fun h => by cases h⟩
      · exact .pure fun s hs => hs

theorem ensures_handling (hsteers : d.Steers) {lines : List Line} {p : Pass}
    {callback : HandlerCallback} (hplaced : (Spot.handling budget lines p callback).Placed d)
    (hheeds : (Spot.handling budget lines p callback).Heeds) (hreaches : d.Reaches s₀ p.cursor) :
    Ensures (Session.Stands p.cursor) (d.stride (.handling budget lines p callback))
      (Spot.Within d s₀) (d.Leaves s₀) := by
  have hsteps : d.options.maxSteps ≠ 0 := Nat.ne_of_gt (Nat.zero_lt_of_lt hplaced.1)
  obtain ⟨collect, hcollect, handler, hhandler, hcallback⟩ := hheeds
  obtain ⟨line, hline, hasks⟩ := exists_of_collectBefore hcollect
  have hcalled := hsteers.lines _ lines hplaced.2 line hline collect hasks handler hhandler
    callback hcallback
  have hleaves (s : Session) (hs : s.Stands p.cursor) := leaves_of_stands hsteps hreaches hs
  refine ((Steers.ensures_handle hcalled).weaken (fun _ _ h => h) hleaves).bind fun flow => ?_
  rintro s ⟨hback, hadvance, hs⟩
  exact ensures_ofSettled hsteps hreaches (fun next h => hreaches.recedes (hback next h)) hadvance
    s hs

theorem ensures_checking {lines : List Line} (hsteps : d.options.maxSteps ≠ 0)
    (hreaches : d.Reaches s₀ cursor) :
    Ensures (Session.Stands cursor) (d.stride (.checking budget lines cursor)) (Spot.Within d s₀)
      (d.Leaves s₀) := by
  have hleaves (s : Session) (hs : s.Stands cursor) := leaves_of_stands hsteps hreaches hs
  refine .of_retains (.liftM _) hleaves fun active => ?_
  split
  · exact .pure hleaves
  · split
    · exact .pure hleaves
    · exact .pure fun s hs => ⟨hreaches, hs⟩

/-- What a run does at its end leaves the session at its place. -/
theorem ensures_closing :
    Ensures (d.Leaves s₀) (d.stride .closing) (Spot.Within d s₀) (d.Leaves s₀) := by
  have hsame (s : Session) (hs : d.Leaves s₀ s) : d.Leaves s₀ s := hs
  have hended : Retains (d.Leaves s₀) (modify Session.ended : SessionM PUnit) := by
    refine .modify fun s hs => ?_
    unfold Session.ended
    split
    · exact hs.congr rfl rfl
    · exact hs
  refine .of_retains hended hsame fun _ => .of_retains (.liftM _) hsame fun active => ?_
  cases active with
  | some active =>
    exact .of_retains .get hsame fun s => .of_retains (.liftM _) hsame fun _ =>
      .of_retains (.liftM _) hsame fun _ => .pure hsame
  | none => exact .of_retains (.liftM _) hsame fun _ => .pure hsame

theorem ensures_parting (result : DialogResult) :
    Ensures (d.Leaves s₀) (d.stride (.parting result)) (Spot.Within d s₀) (d.Leaves s₀) := by
  have hsame (s : Session) (hs : d.Leaves s₀ s) : d.Leaves s₀ s := hs
  refine .of_retains ?_ hsame fun _ => .pure hsame
  unfold announceEnd
  split
  · exact .pure _
  · exact .bind (.liftM _) fun _ => .forM fun hook _ => .liftM _

/-- **From spot to spot** a run stays within the places that it reaches, and where it fails it
leaves its session at one of them. -/
theorem ensures_within (hsteers : d.Steers) {spot : Spot} (hplaced : spot.Placed d)
    (hheeds : spot.Heeds) :
    Ensures (spot.Within d s₀) (d.stride spot) (Spot.Within d s₀) (d.Leaves s₀) := by
  have hsteps {budget : ℕ} (hbudget : budget < d.options.maxSteps) : d.options.maxSteps ≠ 0 :=
    Nat.ne_of_gt (Nat.zero_lt_of_lt hbudget)
  cases spot with
  | starting task =>
    cases task with
    | begin => exact fun s hs => ensures_begin (hs.2 rfl) s hs.1
    | resume input => exact fun s hs => ensures_resuming input s hs.1
    | continueWith activity =>
      rw [stride]
      split
      · exact fun s hs => ensures_resuming _ s hs.1
      · exact .pure fun s hs => hs.1 ▸ .unmoved rfl rfl
  | arriving budget cursor input => exact ensures_arriving hplaced
  | entering budget lines p =>
    exact .assuming fun hreaches => ensures_moved (hsteps hplaced.1) hsteers.ensures_enter hreaches
      fun s hs => ⟨hreaches, hs⟩
  | settling budget lines p => exact .assuming ensures_settling
  | announcing budget lines p answer collect key =>
    exact .assuming fun hreaches => ensures_moved (hsteps hplaced.1)
      (hsteers.ensures_announceChange key answer) hreaches fun s hs => ⟨hreaches, hs⟩
  | selecting budget lines p answer collect => exact ensures_selecting hplaced
  | handling budget lines p callback => exact .assuming (ensures_handling hsteers hplaced hheeds)
  | checking budget lines cursor => exact .assuming (ensures_checking (hsteps hplaced.1))
  | performing budget cursor line => exact .assuming (ensures_performing hplaced)
  | dispatching budget cursor action handled => exact ensures_dispatching hplaced
  | closing => exact ensures_closing
  | parting result => exact ensures_parting result
  | returned outcome => exact .pure fun s hs => hs

/-! ### Runs -/

theorem resumeIndex_of_launched {task : Task}
    (hfresh : task = .begin → ∃ options, s₀ = .launch options) (ht : task = .begin) :
    s₀.resumeIndex = none := by
  obtain ⟨options, rfl⟩ := hfresh ht
  rfl

/-- **In the whole course of a run** it stays within the places that it reaches. -/
theorem within_of_leads {η : Type} {host : (r : Request) → η → Option (r.Answer × η)} {t : Stage η}
    (hsteers : d.Steers) {task : Task} {w : η}
    (hfresh : task = .begin → ∃ options, s₀ = .launch options)
    (hlead : Leads (d.next? host) ⟨.starting task, s₀, w⟩ t) : t.spot.Within d s₀ t.session := by
  let I (t : Stage η) : Prop := (t.spot.Placed d ∧ t.spot.Heeds) ∧ t.spot.Within d s₀ t.session
  refine (hlead.invariant (I := I) ⟨⟨trivial, trivial⟩, rfl, resumeIndex_of_launched hfresh⟩
    fun t t' ht hnext => ?_).2
  obtain ⟨⟨hplaced, hheeds⟩, hwithin⟩ := ht
  refine ⟨placed_and_heeds_of_next? ⟨hplaced, hheeds⟩ hnext, ?_⟩
  obtain ⟨o, hrun, hreached⟩ := exists_runWith_of_next? hnext
  have hstride := (ensures_within hsteers hplaced hheeds t.session hwithin).run hrun
  rw [hreached]
  cases o with
  | ok spot => exact hstride
  | error e => exact hstride

/-- What is left of a run leaves the session at a place that the run reaches. -/
theorem always_leaves_rest (hsteers : d.Steers) {spot : Spot} (hplaced : spot.Placed d)
    (hheeds : spot.Heeds) {s : Session} (hwithin : spot.Within d s₀ s) :
    ((d.rest spot).run.run s).Always fun y => d.Leaves s₀ y.2 := by
  -- the run gets closer to its end with every stride
  induction hsize : spot.size d using Nat.strongRecOn generalizing spot s with
  | _ size ih =>
    by_cases hreturned : ∃ outcome, spot = .returned outcome
    · obtain ⟨outcome, rfl⟩ := hreturned
      cases outcome <;> exact hwithin
    · have hspot : ∀ outcome, spot ≠ .returned outcome := fun outcome h => hreturned ⟨outcome, h⟩
      rw [d.rest_eq]
      have hstride := (ensures_within hsteers hplaced hheeds s hwithin).and
        (d.brings_next hspot s trivial)
      refine HostM.Always.bind hstride ?_
      rintro ⟨o, s'⟩ ⟨hs', hnext⟩
      cases o with
      | error e => exact hs'
      | ok spot' =>
        have hnext : spot.Next d spot' := hnext spot' rfl
        exact ih _ (hsize ▸ hnext.size_lt) (hnext.placed hplaced) (hnext.heeds hheeds) hs' rfl

/-- **However a run ends**, it leaves its session at a place that it reaches. -/
theorem always_leaves (hsteers : d.Steers) {task : Task}
    (hfresh : task = .begin → ∃ options, s₀ = .launch options) :
    ((task.on d).run.run s₀).Always fun y => d.Leaves s₀ y.2 := by
  have hplaced : (Spot.starting task).Placed d := trivial
  exact always_leaves_rest hsteers hplaced trivial ⟨rfl, resumeIndex_of_launched hfresh⟩

end Dialog

end Parley

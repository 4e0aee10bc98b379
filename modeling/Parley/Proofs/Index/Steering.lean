import Parley.Proofs.Conversation.Tidy
import Parley.Proofs.Hosted
import Parley.Routine

/-!
# How callbacks move the cursor

A callback is given two ways to redirect the dialog: to the first line of a thread, and back by one
line.  So wherever it leaves the cursor, that place is the first of its thread, or not behind the
place where the callback was called (`Location.Recedes`).  A callback that leaves the cursor nowhere
else *steers*, and so does a dialog whose callbacks do (`Dialog.Steers`).

Dialogs that are loaded steer, as they have no callbacks.  Routines, which are callbacks written as
data, steer whatever they do (`Routine.steers_handler`, `steers_before`, `steers_change`).
-/

namespace Parley

/-- A place that a callback may get to from another one. -/
def Location.Recedes (l l' : Location) : Prop :=
  l'.index = 0 ∨ l'.thread = l.thread ∧ l'.index ≤ l.index

namespace Location.Recedes

theorem refl (l : Location) : l.Recedes l := .inr ⟨rfl, Nat.le_refl _⟩

theorem trans {l l' l'' : Location} (h : l.Recedes l') (h' : l'.Recedes l'') : l.Recedes l'' := by
  rcases h' with hfirst | ⟨hthread', hle'⟩
  · exact .inl hfirst
  · rcases h with hfirst | ⟨hthread, hle⟩
    · exact .inl (Nat.le_zero.1 (hfirst ▸ hle'))
    · exact .inr ⟨hthread'.trans hthread, Nat.le_trans hle' hle⟩

end Location.Recedes

namespace Convo

variable (c : Convo)

theorem recedes_goto (thread : String) : c.cursor.Recedes (c.goto thread).cursor := .inl rfl

theorem recedes_repeatLine : c.cursor.Recedes c.repeatLine.cursor := .inr ⟨rfl, Nat.sub_le _ _⟩

end Convo

/-- Whether it fails or not, and whatever it is answered, a callback leaves the cursor at a place
that it may get to. -/
def Steers (callback : ConvoM Unit) : Prop :=
  ∀ cursor : Location, Retains (fun c => cursor.Recedes c.cursor) callback

theorem steers_forM {callbacks : List (ConvoM Unit)} (h : ∀ callback ∈ callbacks, Steers callback) :
    Steers (callbacks.forM fun callback => callback) :=
  fun cursor => .forM fun callback hcallback => h callback hcallback cursor

/-! ### Dialogs -/

/-- The callbacks of a line steer. -/
def Line.Steers (line : Line) : Prop :=
  ∀ collect, line.collect? = some collect → ∀ h ∈ collect.options,
    ∀ callback, h.callback = some callback → ∀ text activity, Parley.Steers (callback text activity)

/-- All callbacks of a dialog steer that see its session. -/
structure Dialog.Steers (d : Dialog) : Prop where
  before : ∀ hook ∈ d.hooks.before, Parley.Steers hook.2
  change : ∀ hook ∈ d.hooks.change, ∀ answer, Parley.Steers (hook.2 answer)
  lines : ∀ thread lines, d.script.thread? thread = some lines → ∀ line ∈ lines, line.Steers

theorem Dialog.CallbackFree.steers {d : Dialog} (h : d.CallbackFree) : d.Steers := by
  refine ⟨fun hook hhook => ?_, fun hook hhook => ?_, ?_⟩
  · rw [h.before] at hhook
    cases hhook
  · rw [h.change] at hhook
    cases hhook
  · intro thread lines hl line hline collect hcollect handler hhandler callback hcallback
    rw [h.lines thread lines hl line hline collect hcollect handler hhandler] at hcallback
    cases hcallback

theorem Dialog.Loaded.steers {d : Dialog} (h : d.Loaded) : d.Steers := h.callbackFree.steers

/-! ### Routines -/

/-- What a routine sees of a session, if it sees one, is at a place that a callback may get to. -/
def Location.Holds (cursor : Location) (convo : Option Convo) : Prop :=
  ∀ c ∈ convo, cursor.Recedes c.cursor

theorem Location.Holds.map {cursor : Location} {convo : Option Convo} (h : cursor.Holds convo)
    {f : Convo → Convo} (hf : ∀ c : Convo, c.cursor.Recedes (f c).cursor) :
    cursor.Holds (convo.map f) := by
  intro c hc
  obtain ⟨before, hbefore, rfl⟩ := Option.map_eq_some_iff.1 hc
  exact (h before hbefore).trans (hf before)

namespace Act

variable {cursor : Location} (scene : Scene)

mutual

/-- Acts of a routine leave the cursor at a place that it may get to. -/
theorem retains_run : (act : Act) → Retains cursor.Holds (act.run scene)
  | onlyIf argument act => by
    unfold run
    split
    · exact retains_run act
    · exact .pure _
  | unlessVar key act => by
    unfold run
    refine .get_bind fun convo _ => ?_
    split
    · exact .pure _
    · exact retains_run act
  | set key value => by
    unfold run
    exact .modify fun _ h => h.map fun c => .refl c.cursor
  | goto thread => by
    unfold run
    exact .modify fun _ h => h.map fun c => c.recedes_goto thread
  | repeatLine => by
    unfold run
    exact .modify fun _ h => h.map Convo.recedes_repeatLine
  | send text => by
    unfold run
    exact .liftM _
  | echo => by
    unfold run
    exact .bind (.liftM _) fun _ => .bind .get fun _ => .liftM _
  | begin dialog options | replace dialog options | finish result => by
    unfold run
    exact .bind (.liftM _) fun _ => .pure _
  | cancelAll => by
    unfold run
    exact .liftM _
  | fail code message => by
    unfold run
    exact .throw _
  | attempt acts => by
    unfold run
    exact .tryCatch (retains_runAll acts) fun _ => .liftM _

theorem retains_runAll : (acts : List Act) → Retains cursor.Holds (runAll scene acts)
  | [] => by
    unfold runAll
    exact .pure _
  | act :: rest => by
    unfold runAll
    exact .bind (retains_run act) fun _ => retains_runAll rest

end

theorem steers_withConvo (acts : List Act) : Steers (withConvo (runAll scene acts)) := by
  intro cursor
  unfold withConvo
  refine .get_bind fun convo hconvo => ?_
  have hseen : cursor.Holds (some convo) := fun c hc => Option.some.inj hc ▸ hconvo
  refine .liftHost_bind (retains_runAll scene acts (some convo) hseen) fun y hy => ?_
  have hleft : cursor.Recedes (y.2.getD convo).cursor := by
    cases hconvo' : y.2 with
    | none => exact hconvo
    | some left => exact hy left hconvo'
  refine .bind (.modify fun _ _ => hleft) fun _ => ?_
  split
  · exact .pure _
  · exact .throw _

end Act

namespace Routine

variable (acts : Routine)

theorem steers_handler (text : Option String) (activity : Option Activity) :
    Steers (acts.handler text activity) := Act.steers_withConvo _ acts

theorem steers_before : Steers acts.before := Act.steers_withConvo _ acts

theorem steers_change (answer : Json) : Steers (acts.change answer) := Act.steers_withConvo _ acts

end Routine

end Parley

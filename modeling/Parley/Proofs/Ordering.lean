import Parley.Dialog.Builder
import Parley.Proofs.Course.Shape
import Parley.Routine
import Parley.Stack.Turn

/-!
# The order of a run

Hooks, handlers, jumps and lines move the cursor of a run in any combination, and the run goes on
from there.  Whatever they do, the deeds of a run keep an order (`Dialog.run_keeps_order`), for
every dialog and on every host:

* the first line of a thread is carried out only where all hooks before the thread have just been
  called and have left the cursor;
* what the turn brought is captured once at most and handed to one handler at most, in the first
  pass, and the hooks on it are called in between;
* when a hook on the answer moves the cursor, no handler gets the answer, and the next pass is where
  the cursor is;
* the hooks after the end are called only when the host has ended the dialog.

All deeds of a run have been due, at any stage of it (`Dialog.Standing`), and what is due keeps the
order (`Dialog.Standing.inOrder`).
-/

namespace Parley

open Stepping StatefulAttempt

namespace Dialog

variable {d : Dialog} {budget : ℕ} {cursor : Location} {input : Option TurnInput} {ds : List Deed}

section

variable {η : Type} {host : (r : Request) → η → Option (r.Answer × η)} {t t' : Stage η}

/-- What is due has been so for all deeds of a run so far, and its shape is known. -/
structure Standing (d : Dialog) (budget : ℕ) (cursor : Location) (input : Option TurnInput)
    (ds : List Deed) (spot : Spot) : Prop where
  due : Deed.Each (fun earlier deed => d.Due cursor input earlier deed ∧
    DueThen cursor earlier deed) ds
  redirected : d.Redirected budget cursor ds spot
  shape : d.Shape budget cursor input ds spot

theorem Standing.next (h : d.Standing budget cursor input ds t.spot)
    (hnext : d.next? host t = some t') :
    d.Standing budget cursor input (ds ++ (d.deed? host t).toList) t'.spot := by
  refine ⟨?_, h.redirected.next h.shape hnext, h.shape.next hnext⟩
  cases hdeed : d.deed? host t with
  | none =>
    rw [Option.toList_none, List.append_nil]
    exact h.due
  | some deed => exact h.due.concat ⟨h.shape.due hdeed, h.redirected.due hdeed⟩

theorem standing_of_passes {s : Session} {w : η}
    (h : Passes (d.next? host) (d.deed? host) ⟨.arriving budget cursor input, s, w⟩ ds t) :
    d.Standing budget cursor input ds t.spot := by
  refine h.invariant (I := fun ds t => d.Standing budget cursor input ds t.spot) ?_
    fun _ _ _ => Standing.next
  refine ⟨Deed.each_nil, fun earlier called answer moved hds => ?_, .inl rfl,
    .inl ⟨rfl, rfl, rfl, rfl⟩⟩
  exact absurd hds.symm (concat_ne_nil _ _)

end

/-! ### The order -/

/-- The deeds of a run so far, from a pass on, are in order. -/
structure InOrder (d : Dialog) (budget : ℕ) (cursor : Location) (input : Option TurnInput)
    (ds : List Deed) (spot : Spot) : Prop where
  /-- A first line is carried out only in a pass in which the hooks before the thread, all of them
  and in order, have just been called and have left the cursor there. -/
  firstLine : ∀ earlier deed later c, ds = earlier ++ deed :: later → deed.line? = some c →
    c.index = 0 → ∃ before i performed, earlier = before ++ .arrives c i ::
      .before (d.hooks.beforeThread c.thread) (some c) :: performed ∧
      ∀ x ∈ performed, ∃ line, x = .performs c line
  /-- Only the first pass gets what the turn brought. -/
  arrivals : ∀ earlier c i later, ds = earlier ++ .arrives c i :: later →
    if earlier = [] then c = cursor ∧ i = input else i = none
  /-- It is captured once at most, the hooks on it are called in order, and it is handed to one
  handler at most. -/
  told : d.Told cursor input ds
  /-- All that is in the first pass. -/
  inFirstPass : ∀ earlier deed later, ds = earlier ++ deed :: later → deed.ofAnswer = true →
    FirstPass cursor input earlier
  /-- When a hook on the answer has moved the cursor, no handler gets the answer, and the next pass
  begins where the cursor is, unless the budget is used up. -/
  redirected : ∀ earlier called answer moved later,
    ds = earlier ++ .changes called answer (some moved) :: later → moved ≠ cursor →
      (∀ deed ∈ later, deed.ofAnswer = false) ∧
      match later with
      | deed :: _ => deed = .arrives moved none
      | [] => ∃ left, budget = left + 1 ∧ (spot = .arriving left moved none ∨
          left = 0 ∧ ∃ l, spot = .returned (.error (.stepGuard d.id d.options.maxSteps l)))
  /-- The hooks after the end are called only when the host has just ended the dialog. -/
  parted : ∀ earlier called result later, ds = earlier ++ .after called result :: later →
    ∃ before status, earlier = before ++ [.finishes (some result) (.ok status)]

/-- What is done with the answer is done in the first pass. -/
theorem Standing.firstPass {spot : Spot} (h : d.Standing budget cursor input ds spot)
    {earlier later : List Deed} {deed : Deed} (hds : ds = earlier ++ deed :: later)
    (hanswer : deed.ofAnswer = true) : FirstPass cursor input earlier := by
  have hdue := (h.due earlier deed later hds).1
  cases deed with
  | captures | changes | handles => exact hdue
  | _ => cases hanswer

theorem Standing.ofAnswer_eq_false {spot : Spot} (h : d.Standing budget cursor input ds spot)
    {earlier between later : List Deed} {deed : Deed} {c : Location} {i : Option TurnInput}
    (hearlier : earlier ≠ []) (hds : ds = (earlier ++ .arrives c i :: between) ++ deed :: later) :
    deed.ofAnswer = false := by
  by_contra hanswer
  obtain ⟨rest, hrest, harrival⟩ := h.firstPass hds (Bool.of_not_eq_false hanswer)
  obtain ⟨first, earlier, rfl⟩ := List.exists_cons_of_ne_nil hearlier
  have hmem : Deed.arrives c i ∈ rest := by
    rw [← List.tail_eq_of_cons_eq hrest]
    simp
  cases harrival _ hmem

/-- What is due keeps the order. -/
theorem Standing.inOrder {spot : Spot} (h : d.Standing budget cursor input ds spot) :
    d.InOrder budget cursor input ds spot where
  firstLine earlier deed later c hds hline hzero := by
    have hdue := (h.due earlier deed later hds).1
    cases deed with
    | performs cursor line =>
      obtain rfl := Option.some.inj hline
      obtain ⟨before, i, rfl⟩ := hdue hzero
      exact ⟨before, i, [], rfl, fun _ hx => absurd hx List.not_mem_nil⟩
    | dispatches cursor action =>
      obtain rfl := Option.some.inj hline
      obtain ⟨_, line, rfl, before, i, rfl⟩ := hdue hzero
      refine ⟨before, i, [.performs cursor line], ?_, fun x hx => ⟨line, List.mem_singleton.1 hx⟩⟩
      rw [List.append_assoc]
      rfl
    | _ => cases hline
  arrivals earlier c i later hds := (h.due earlier _ later hds).1
  told := h.shape.told
  inFirstPass _ _ _ hds hanswer := h.firstPass hds hanswer
  redirected earlier called answer moved later hds hmoved := by
    cases later with
    | nil =>
      refine ⟨fun _ hx => absurd hx List.not_mem_nil, ?_⟩
      exact h.redirected earlier called answer moved hds hmoved
    | cons next later =>
      have hds' : ds = (earlier ++ [.changes called answer (some moved)]) ++ next :: later := by
        rw [hds, List.append_assoc]
        rfl
      obtain rfl := (h.due _ next later hds').2 earlier called answer moved rfl hmoved
      refine ⟨fun deed hdeed => ?_, rfl⟩
      rcases List.mem_cons.1 hdeed with rfl | hdeed
      · rfl
      · obtain ⟨between, last, rfl⟩ := List.append_of_mem hdeed
        have hsplit : ds = (earlier ++ [.changes called answer (some moved)] ++
            .arrives moved none :: between) ++ deed :: last := by
          rw [hds', List.append_assoc _ _ (deed :: last)]
          rfl
        exact h.ofAnswer_eq_false (concat_ne_nil _ _) hsplit
  parted earlier called result later hds := (h.due earlier _ later hds).1

/-- **A run keeps the order**, for every dialog and on every host, and whatever the callbacks do: a
run that returns has a story, and every story, also that of a run that does not return, is in
order. -/
theorem run_keeps_order {η : Type} (d : Dialog)
    (host : (r : Request) → η → Option (r.Answer × η)) (budget : ℕ) (cursor : Location)
    (input : Option TurnInput) (s : Session) (w : η) :
    (∀ x, runWith host (d.run budget cursor input) s w = some x →
      ∃ ds, Passes (d.next? host) (d.deed? host) ⟨.arriving budget cursor input, s, w⟩ ds
        (Stage.final x)) ∧
    ∀ ds t, Passes (d.next? host) (d.deed? host) ⟨.arriving budget cursor input, s, w⟩ ds t →
      d.InOrder budget cursor input ds t.spot := by
  refine ⟨fun x hx => ?_, fun ds t h => (standing_of_passes h).inOrder⟩
  obtain ⟨⟨n, hn⟩, -⟩ := (runWith_rest_iff_ends ⟨.arriving budget cursor input, s, w⟩).1 hx
  exact ⟨_, passes_of_after hn⟩

/-! ### A hook on an answer that goes elsewhere -/

/-- A dialog that asks for a name, says goodbye when it is told one, and has a handler for the name
all the same. -/
def leaver : Dialog :=
  ((((Dialog.empty "leaver" { seed := some 7 }).ask (.ofText "Name?")
    (.callback (Routine.handler [.send "Welcome."])) (some ⟨"name", false⟩)).addMessage
    (.ofText "Goodbye.") "exit").addChange "name" (Routine.change [.goto "exit"])).addBefore "exit"
    (Routine.before [.send "So soon?"])

/-- The session when the question has been asked. -/
def leaverAsked : Session := Session.launch {}

/-- The dialog on the stack. -/
def leaverStack : Stack :=
  ((Stack.empty [("leaver", leaver)] fun _ => 0).push "leaver" {}).enter 1

theorem run_keeps_order_leaver :
    ∃ ds t, Passes (leaver.next? (Stack.answer 2)) (leaver.deed? (Stack.answer 2))
        ⟨.arriving 9 ⟨defaultThread, 1⟩ (some (.message (.message "web" "c" "u" "Ada"))),
          leaverAsked, leaverStack⟩ ds t ∧
      leaver.InOrder 9 ⟨defaultThread, 1⟩ (some (.message (.message "web" "c" "u" "Ada"))) ds
        t.spot ∧
      ds.length = 6 ∧ ds.map Deed.ofAnswer = [false, true, true, false, false, false] ∧
      (ds.filterMap Deed.line?) = [⟨"exit", 0⟩] := by
  have hafter : ∃ t ∈ after (leaver.next? (Stack.answer 2)) 8 ⟨.arriving 9 ⟨defaultThread, 1⟩
      (some (.message (.message "web" "c" "u" "Ada"))), leaverAsked, leaverStack⟩, True := by
    decide +kernel
  obtain ⟨t, ht, -⟩ := hafter
  have hpasses : Passes _ (leaver.deed? (Stack.answer 2)) _ _ t := passes_of_after ht
  obtain ⟨-, horder⟩ := run_keeps_order leaver (Stack.answer 2) 9 ⟨defaultThread, 1⟩
    (some (.message (.message "web" "c" "u" "Ada"))) leaverAsked leaverStack
  refine ⟨_, t, hpasses, horder _ _ hpasses, ?_, ?_, ?_⟩
  all_goals decide +kernel

end Dialog

end Parley

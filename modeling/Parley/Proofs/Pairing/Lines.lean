import Parley.Proofs.Flat.Loading

/-!
# Questions and the places for their answers

The answer to a line is dealt with on the line behind it, and for that a line `next` is put there.
Nothing in the type of a script says so.  The calls that build a dialog add lines in four places,
and what a definition stands for is put together in another one; but all of them add either one line
that asks for nothing, or a line that asks together with its `next`.  `Interlaced` are the lists of
lines that such additions make, to whichever thread and in whatever order.

So in every thread of a dialog that is built, or that a definition stands for, the lines are paired:
a line that asks for something is followed by `next`, and a line `next` is where an answer is dealt
with (`Interlaced.paired`).
-/

namespace Parley

/-- Every line that asks for something is followed by a line `next`, and every line `next` is behind
one that asks for something. -/
structure Paired (lines : List Line) : Prop where
  next_of_collect : ∀ (i : ℕ) (line : Line) (collect : Collect), lines[i]? = some line →
    line.collect? = some collect → lines[i + 1]? = some .next
  collect_of_next : ∀ i, lines[i]? = some .next → ∃ j line collect,
    i = j + 1 ∧ lines[j]? = some line ∧ line.collect? = some collect

/-- The answer to the line before is dealt with on the lines `next`, and nowhere else. -/
theorem Paired.next_iff {lines : List Line} (h : Paired lines) (i : ℕ) :
    lines[i]? = some .next ↔ ∃ collect, Dialog.collectBefore lines i = some collect := by
  constructor
  · intro hnext
    obtain ⟨j, line, collect, rfl, hline, hcollect⟩ := h.collect_of_next i hnext
    exact ⟨collect, Option.bind_eq_some_iff.2 ⟨line, hline, hcollect⟩⟩
  · rintro ⟨collect, hbefore⟩
    cases i with
    | zero => cases hbefore
    | succ j =>
      obtain ⟨line, hline, hcollect⟩ := Option.bind_eq_some_iff.1 hbefore
      exact h.next_of_collect j line collect hline hcollect

/-! ### Lines that are added together -/

/-- Lines that have been added one by one, those that ask for something with a line `next`. -/
inductive Interlaced : List Line → Prop where
  | nil : Interlaced []
  | plain {line : Line} {rest : List Line} (hcollect : line.collect? = none) (hnext : line ≠ .next)
      (h : Interlaced rest) : Interlaced (line :: rest)
  | asking {line : Line} {rest : List Line} {collect : Collect}
      (hcollect : line.collect? = some collect) (h : Interlaced rest) :
      Interlaced (line :: .next :: rest)

namespace Interlaced

variable {line : Line} {lines lines' : List Line}

theorem single (hcollect : line.collect? = none) (hnext : line ≠ .next) : Interlaced [line] :=
  .plain hcollect hnext .nil

theorem pair {collect : Collect} (hcollect : line.collect? = some collect) :
    Interlaced [line, .next] := .asking hcollect .nil

theorem append (h : Interlaced lines) (h' : Interlaced lines') : Interlaced (lines ++ lines') := by
  induction h with
  | nil => exact h'
  | plain hcollect hnext _ ih => exact .plain hcollect hnext ih
  | asking hcollect _ ih => exact .asking hcollect ih

theorem ne_next_of_collect? {collect : Collect} (h : line.collect? = some collect) :
    line ≠ .next := by
  rintro rfl
  cases h

/-- **Lines that are interlaced are paired.** -/
theorem paired (h : Interlaced lines) : Paired lines := by
  induction h with
  | nil => exact ⟨fun _ _ _ hi => by simp at hi, fun _ hi => by simp at hi⟩
  | @plain line rest hcollect hnext _ ih =>
    constructor
    · intro i line' collect hi hc
      cases i with
      | zero =>
        obtain rfl := Option.some.inj hi
        rw [hcollect] at hc
        cases hc
      | succ i => exact ih.next_of_collect i line' collect hi hc
    · intro i hi
      cases i with
      | zero => exact absurd (Option.some.inj hi) hnext
      | succ i =>
        obtain ⟨j, line', collect, rfl, hj, hc⟩ := ih.collect_of_next i hi
        exact ⟨j + 1, line', collect, rfl, hj, hc⟩
  | @asking line rest collect hcollect _ ih =>
    -- a line number is that of the line, of its `next`, or of a line behind both
    constructor
    · intro i line' collect' hi hc
      match i with
      | 0 => rfl
      | 1 =>
        obtain rfl := Option.some.inj hi
        cases hc
      | i + 2 => exact ih.next_of_collect i line' collect' hi hc
    · intro i hi
      match i with
      | 0 => exact absurd (Option.some.inj hi) (ne_next_of_collect? hcollect)
      | 1 => exact ⟨0, line, collect, rfl, rfl, hcollect⟩
      | i + 2 =>
        obtain ⟨j, line', collect', rfl, hj, hc⟩ := ih.collect_of_next i hi
        exact ⟨j + 2, line', collect', rfl, hj, hc⟩

end Interlaced

theorem LineDefinition.Image.interlaced {l : LineDefinition} {lines : List Line}
    (h : l.Image lines) : Interlaced lines := by
  cases h with
  | child | question => exact .pair rfl
  | action | message => exact .single rfl nofun

/-! ### Dialogs that are built -/

namespace Dialog

/-- A dialog that calls to a builder have made, one after another. -/
inductive Built : Dialog → Prop where
  | empty (id : String) (options : DialogOptions) : Built (.empty id options)
  | withOptions {d : Dialog} (h : Built d) (options : DialogOptions) :
      Built { d with options := options }
  | say {d : Dialog} (h : Built d) (message : Message) : Built (d.say message)
  | ask {d : Dialog} (h : Built d) (message : Message) (handlers : Handlers)
      (key : Option CollectKey) : Built (d.ask message handlers key)
  | addMessage {d : Dialog} (h : Built d) (message : Message) (thread : String) :
      Built (d.addMessage message thread)
  | addMessageThen {d : Dialog} (h : Built d) (message : Message) (action : Action)
      (thread : String) : Built (d.addMessageThen message action thread)
  | addQuestion {d : Dialog} (h : Built d) (message : Message) (handlers : Handlers)
      (key : Option CollectKey) (thread : String) :
      Built (d.addQuestion message handlers key thread)
  | addAction {d : Dialog} (h : Built d) (action : Action) (thread : String) :
      Built (d.addAction action thread)
  | addChildDialog {d : Dialog} (h : Built d) (dialog : String) (key : Option String)
      (thread : String) : Built (d.addChildDialog dialog key thread)
  | addGotoDialog {d : Dialog} (h : Built d) (dialog thread : String) :
      Built (d.addGotoDialog dialog thread)
  | addBefore {d : Dialog} (h : Built d) (thread : String) (hook : BeforeHook) :
      Built (d.addBefore thread hook)
  | addAfter {d : Dialog} (h : Built d) (hook : AfterHook) : Built (d.addAfter hook)
  | addChange {d : Dialog} (h : Built d) (key : String) (hook : ChangeHook) :
      Built (d.addChange key hook)

/-- All threads of a dialog are interlaced. -/
def IsInterlaced (d : Dialog) : Prop :=
  ∀ thread lines, d.script.thread? thread = some lines → Interlaced lines

variable {d : Dialog}

theorem IsInterlaced.append (h : d.IsInterlaced) (thread : String) {lines : List Line}
    (hlines : Interlaced lines) : (d.append thread lines).IsInterlaced := by
  intro name lines' hl
  by_cases hname : name = thread
  · subst hname
    obtain rfl := Option.some.inj ((Keyed.get?_insert_self ..).symm.trans hl)
    refine .append ?_ hlines
    cases hthread : d.script.thread? name with
    | none => exact .nil
    | some before => exact h name before hthread
  · exact h name lines' ((Keyed.get?_insert_of_ne _ _ hname).symm.trans hl)

theorem Built.isInterlaced (h : d.Built) : d.IsInterlaced := by
  induction h with
  | empty id options => exact fun _ _ hl => by cases hl
  -- options and hooks are no lines
  | withOptions _ _ ih | addBefore _ _ _ ih | addAfter _ _ ih | addChange _ _ _ ih => exact ih
  | say _ _ ih | addMessage _ _ _ ih | addMessageThen _ _ _ _ ih | addAction _ _ _ ih
  | addGotoDialog _ _ _ ih => exact ih.append _ (.single rfl nofun)
  | ask _ _ _ _ ih | addQuestion _ _ _ _ _ ih | addChildDialog _ _ _ _ ih =>
    exact ih.append _ (.pair rfl)

theorem isInterlaced_of_toDialog {definition : DialogDefinition} {options : DialogOptions}
    (hd : definition.toDialog options = .ok d) : d.IsInterlaced := fun _ _ hl =>
  DialogDefinition.of_toDialog .nil (fun _ _ => .append)
    (fun _ _ => LineDefinition.Image.interlaced) hd hl

end Dialog

end Parley

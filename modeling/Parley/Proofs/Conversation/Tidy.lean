import Parley.Proofs.Pairing.Lines

/-!
# Tidy dialogs

The answer to a line is dealt with on the line behind it.  In a dialog that is loaded that line is
always a line `next`, which does nothing else, and a line that begins a child always has one key for
the child's values.  The first is so because lines are put together in pairs, the second is seen on
the image of one definition (`Dialog.Loaded.tidy`).
-/

namespace Parley

/-- Lines on which every answer has a place of its own, and every child a key. -/
structure Tidy (lines : List Line) : Prop where
  next_of_collect : ∀ (i : ℕ) (line : Line) (collect : Collect), lines[i]? = some line →
    line.collect? = some collect → lines[i + 1]? = some .next
  key_of_child : ∀ (execute : Execute) (collect : Collect),
    .childDialog execute collect ∈ lines → ∃ key, collect.key = some key ∧ collect.multiple = false

/-- An answer is dealt with on a line `next`. -/
theorem Tidy.next_of_collectBefore {lines : List Line} (h : Tidy lines) {index : ℕ}
    {collect : Collect} (hc : Dialog.collectBefore lines index = some collect) :
    lines[index]? = some .next := by
  cases index with
  | zero => cases hc
  | succ index =>
    obtain ⟨line, hline, hcollect⟩ := Option.bind_eq_some_iff.1 hc
    exact h.next_of_collect index line collect hline hcollect

/-! ### Loading -/

theorem LineDefinition.Image.key_of_child {l : LineDefinition} {lines : List Line}
    (h : l.Image lines) : ∀ line ∈ lines, ∀ execute collect, line = .childDialog execute collect →
      ∃ key, collect.key = some key ∧ collect.multiple = false := by
  rintro line hline execute collect rfl
  cases h with
  | child =>
    rcases List.mem_pair.1 hline with hline | hline
    · cases hline
      exact ⟨_, rfl, rfl⟩
    · cases hline
  | question => rcases List.mem_pair.1 hline with hline | hline <;> cases hline
  | action | message => cases List.mem_singleton.1 hline

namespace Dialog

/-- A dialog that comes from a text. -/
def Loaded (d : Dialog) : Prop := ∃ source options, Dialog.load source options = .ok d

/-- All threads of a dialog are tidy. -/
def IsTidy (d : Dialog) : Prop :=
  ∀ thread lines, d.script.thread? thread = some lines → Tidy lines

namespace Loaded

variable {d : Dialog} (h : d.Loaded)

include h

theorem callbackFree : d.CallbackFree := by
  obtain ⟨source, options, hd⟩ := h
  exact callbackFree_of_load hd

theorem isInterlaced : d.IsInterlaced := by
  obtain ⟨source, options, hd⟩ := h
  obtain ⟨definition, -, hd⟩ := exists_of_bind_eq_ok hd
  exact isInterlaced_of_toDialog hd

theorem tidy : d.IsTidy := by
  intro thread lines hl
  refine ⟨(h.isInterlaced thread lines hl).paired.next_of_collect, fun execute collect hmem => ?_⟩
  obtain ⟨source, options, hd⟩ := h
  obtain ⟨definition, -, hd⟩ := exists_of_bind_eq_ok hd
  exact DialogDefinition.forall_line_of_toDialog (fun _ _ => LineDefinition.Image.key_of_child)
    hd hl _ hmem execute collect rfl

end Loaded

end Dialog

end Parley

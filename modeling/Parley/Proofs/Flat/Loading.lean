import Parley.Proofs.Flat.Yielding
import Parley.Proofs.Translation.Dialog

/-!
# Dialogs that are loaded

A definition has no way to write a callback, so a dialog that is made from one has none
(`Dialog.callbackFree_of_load`).
-/

namespace Parley

/-! ### Lines -/

theorem HandlerDefinition.Means.callback_eq_none {d : HandlerDefinition} {h : Handler}
    (hmeans : d.Means h) : h.callback = none := by
  cases hmeans <;> rfl

theorem CollectDefinition.Handles.callback_eq_none {c : CollectDefinition} {handlers : List Handler}
    (hhandles : c.Handles handlers) : ∀ h ∈ handlers, h.callback = none := by
  intro h hmem
  cases hhandles with
  | absent => cases hmem
  | list _ hhandlers =>
    obtain ⟨v, d, -, hmeans⟩ := exists_forall₂_iff.1 ⟨_, hhandlers.flip⟩ h hmem
    exact hmeans.callback_eq_none

namespace Line

theorem callbackFree_of_collect?_eq_none {line : Line} (h : line.collect? = none) :
    line.CallbackFree := by
  intro collect hc
  rw [h] at hc
  cases hc

theorem callbackFree_of_collect? {line : Line} {collect : Collect}
    (h : line.collect? = some collect) (hh : ∀ h ∈ collect.options, h.callback = none) :
    line.CallbackFree := by
  intro collect' hc
  rw [h] at hc
  cases hc
  exact hh

end Line

theorem LineDefinition.Image.callbackFree {l : LineDefinition} {lines : List Line}
    (h : l.Image lines) : ∀ line ∈ lines, line.CallbackFree := by
  have hplain {line : Line} (h : line.collect? = none) : ∀ l ∈ [line], l.CallbackFree := by
    intro l hl
    obtain rfl := List.mem_singleton.1 hl
    exact Line.callbackFree_of_collect?_eq_none h
  cases h with
  | child _ _ _ hhandlers | question _ _ _ hhandlers =>
    have hh := hhandlers.callback_eq_none
    exact List.forall_mem_cons.2 ⟨Line.callbackFree_of_collect? rfl hh, hplain rfl⟩
  | action => exact hplain rfl
  | message => exact hplain rfl

/-! ### Dialogs -/

namespace DialogDefinition

section

variable {P : List Line → Prop} (hnil : P []) (happend : ∀ l l', P l → P l' → P (l ++ l'))
  (himage : ∀ (definition : LineDefinition) (l : List Line), definition.Image l → P l)

include hnil happend himage

/-- What holds of the image of each definition, and is kept when lines are put together, holds of
all the lines of a list of definitions. -/
theorem of_linesFrom {id thread : String} {index : ℕ} {definitions : List LineDefinition}
    {lines : List Line} (hl : linesFrom id thread index definitions = .ok lines) : P lines := by
  obtain ⟨images, himages, rfl⟩ := linesFrom_eq_ok_iff.1 hl
  clear hl
  induction himages with
  | nil => exact hnil
  | cons h _ ih => exact happend _ _ (himage _ _ h) ih

theorem of_threadsOf {id : String} {threads : Keyed (List LineDefinition)}
    {script : Keyed (List Line)} (ht : threadsOf id threads = .ok script) {name : String}
    {lines : List Line} (hl : script.get? name = some lines) : P lines := by
  induction threads generalizing script with
  | nil =>
    cases ht
    cases hl
  | cons entry rest ih =>
    obtain ⟨first, more, hfirst, hmore, rfl⟩ := exists_of_threadsOf_cons ht
    split at hl
    · exact ih hmore hl
    · rw [Keyed.get?_cons] at hl
      split at hl
      · cases hl
        exact of_linesFrom hnil happend himage hfirst
      · exact ih hmore hl

theorem of_toDialog {definition : DialogDefinition} {options : DialogOptions} {d : Dialog}
    (hd : definition.toDialog options = .ok d) {thread : String} {lines : List Line}
    (hl : d.script.thread? thread = some lines) : P lines := by
  obtain ⟨threads, hthreads, rfl⟩ := exists_of_toDialog_eq_ok hd
  exact of_threadsOf hnil happend himage hthreads hl

end

theorem forall_line_of_toDialog {Q : Line → Prop}
    (himage : ∀ (definition : LineDefinition) (l : List Line), definition.Image l →
      ∀ line ∈ l, Q line)
    {definition : DialogDefinition} {options : DialogOptions} {d : Dialog}
    (hd : definition.toDialog options = .ok d) {thread : String} {lines : List Line}
    (hl : d.script.thread? thread = some lines) : ∀ line ∈ lines, Q line :=
  of_toDialog (P := fun l => ∀ line ∈ l, Q line) (fun _ h => absurd h List.not_mem_nil)
    (fun _ _ h h' => List.forall_mem_append.2 ⟨h, h'⟩) himage hd hl

theorem callbackFree_of_toDialog {definition : DialogDefinition} {options : DialogOptions}
    {d : Dialog} (hd : definition.toDialog options = .ok d) : d.CallbackFree := by
  have hlines : ∀ thread lines, d.script.thread? thread = some lines →
      ∀ line ∈ lines, line.CallbackFree := fun _ _ hl =>
    forall_line_of_toDialog (fun _ _ => LineDefinition.Image.callbackFree) hd hl
  obtain ⟨threads, -, rfl⟩ := exists_of_toDialog_eq_ok hd
  exact ⟨rfl, rfl, rfl, hlines⟩

end DialogDefinition

/-- **A dialog that is loaded has no callbacks.** -/
theorem Dialog.callbackFree_of_load {source : String} {options : DialogOptions} {d : Dialog}
    (hd : Dialog.load source options = .ok d) : d.CallbackFree := by
  obtain ⟨definition, -, hd⟩ := exists_of_bind_eq_ok hd
  exact DialogDefinition.callbackFree_of_toDialog hd

end Parley

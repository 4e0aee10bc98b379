import Mathlib.Logic.Basic
import Mathlib.Tactic.Common

/-!
# Computations followed step by step

A machine is a partial function `step`: from a state it either goes to the next one or has come to
its end.  `after step n s` is the state that it is in `n` steps after `s`, and `Leads` says that one
state is reached from another.  Since there is one next state at most, an end is reached once and
for all (`Ends.unique`).

A computation with a bound on its rounds is compared with a machine by `Tracks`: a result of the
computation is a state that the machine reaches, and when there is none the machine takes at least
as many steps, or gets stuck.  So the computation has a result for some bound exactly when the
machine comes to an end at which it is not stuck (`Tracks.exists_iff_ends`).
-/

namespace Parley

namespace Stepping

variable {σ α β : Type} {step : σ → Option σ}

/-- The state of a machine after a number of steps, if it takes so many. -/
def after (step : σ → Option σ) : ℕ → σ → Option σ
  | 0, s => some s
  | n + 1, s => (step s).bind (after step n)

/-- The machine goes from one state to another in zero or more steps. -/
def Leads (step : σ → Option σ) (s s' : σ) : Prop := ∃ n, after step n s = some s'

/-- The machine comes to its end in a state. -/
def Ends (step : σ → Option σ) (s s' : σ) : Prop := Leads step s s' ∧ step s' = none

@[simp] theorem after_zero (s : σ) : after step 0 s = some s := rfl

theorem after_succ (n : ℕ) (s : σ) : after step (n + 1) s = (step s).bind (after step n) := rfl

theorem after_succ_of_step {n : ℕ} {s s₁ : σ} (h : step s = some s₁) :
    after step (n + 1) s = after step n s₁ := by
  rw [after_succ, h, Option.bind_some]

theorem after_add (m n : ℕ) (s : σ) :
    after step (m + n) s = (after step m s).bind (after step n) := by
  induction m generalizing s with
  | zero => simp
  | succ m ih =>
    rw [Nat.succ_add, after_succ, after_succ]
    cases step s with
    | none => rfl
    | some s₁ => exact ih s₁

theorem exists_after_of_le {m n : ℕ} (hmn : m ≤ n) {s s' : σ} (h : after step n s = some s') :
    ∃ t, after step m s = some t := by
  obtain ⟨k, rfl⟩ := Nat.exists_eq_add_of_le hmn
  rw [after_add] at h
  obtain ⟨t, ht, -⟩ := Option.bind_eq_some_iff.1 h
  exact ⟨t, ht⟩

namespace Leads

theorem refl (s : σ) : Leads step s s := ⟨0, rfl⟩

theorem head {s s₁ s₂ : σ} (h : step s = some s₁) (h' : Leads step s₁ s₂) : Leads step s s₂ := by
  obtain ⟨n, hn⟩ := h'
  exact ⟨n + 1, (after_succ_of_step h).trans hn⟩

theorem single {s s' : σ} (h : step s = some s') : Leads step s s' := head h (refl s')

theorem trans {s s₁ s₂ : σ} (h : Leads step s s₁) (h' : Leads step s₁ s₂) : Leads step s s₂ := by
  obtain ⟨m, hm⟩ := h
  obtain ⟨n, hn⟩ := h'
  exact ⟨m + n, by rw [after_add, hm, Option.bind_some, hn]⟩

theorem tail {s s₁ s₂ : σ} (h : Leads step s s₁) (h' : step s₁ = some s₂) : Leads step s s₂ :=
  h.trans (single h')

/-- What holds at first and is kept by every step holds of all states that are reached. -/
theorem invariant {I : σ → Prop} {s s' : σ} (h : Leads step s s') (h₀ : I s)
    (hstep : ∀ t t', I t → step t = some t' → I t') : I s' := by
  obtain ⟨n, hn⟩ := h
  induction n generalizing s with
  | zero =>
    obtain rfl : s = s' := Option.some.inj hn
    exact h₀
  | succ n ih =>
    rw [after_succ] at hn
    obtain ⟨t, ht, hn⟩ := Option.bind_eq_some_iff.1 hn
    exact ih (hstep s t h₀ ht) hn

end Leads

/-! ### Ends -/

theorem after_succ_eq_none_of_end {n : ℕ} {s s' : σ} (h : after step n s = some s')
    (hend : step s' = none) : after step (n + 1) s = none := by
  rw [after_add, h, Option.bind_some, after_succ, hend, Option.bind_none]

theorem Ends.unique {s s₁ s₂ : σ} (h₁ : Ends step s s₁) (h₂ : Ends step s s₂) : s₁ = s₂ := by
  obtain ⟨⟨m, hm⟩, hs₁⟩ := h₁
  obtain ⟨⟨n, hn⟩, hs₂⟩ := h₂
  have key : ∀ {m n : ℕ} {s₁ s₂ : σ}, after step m s = some s₁ → step s₁ = none →
      after step n s = some s₂ → n ≤ m := by
    intro m n s₁ s₂ hm hs₁ hn
    by_contra hlt
    obtain ⟨t, ht⟩ := exists_after_of_le (Nat.lt_of_not_le hlt) hn
    rw [after_succ_eq_none_of_end hm hs₁] at ht
    exact absurd ht (by simp)
  obtain rfl : m = n := Nat.le_antisymm (key hn hs₂ hm) (key hm hs₁ hn)
  exact Option.some.inj (hm.symm.trans hn)

/-- The end that a machine comes to is the end that its next state comes to. -/
theorem Ends.of_head {s s₁ s₂ : σ} (h : Ends step s s₂) (hstep : step s = some s₁) :
    Ends step s₁ s₂ := by
  obtain ⟨⟨n, hn⟩, hend⟩ := h
  cases n with
  | zero =>
    obtain rfl : s = s₂ := Option.some.inj hn
    rw [hend] at hstep
    cases hstep
  | succ n => exact ⟨⟨n, (after_succ_of_step hstep).symm.trans hn⟩, hend⟩

/-! ### Machines in lockstep -/

section

variable {Q : σ → σ → Prop}

/-- What relates the next states of related states relates all later ones. -/
theorem rel_after (hstep : ∀ s s', Q s s' → Option.Rel Q (step s) (step s')) (n : ℕ) {s s' : σ}
    (h : Q s s') : Option.Rel Q (after step n s) (after step n s') := by
  induction n generalizing s s' with
  | zero => exact .some h
  | succ n ih =>
    rw [after_succ, after_succ]
    generalize step s = x, step s' = y, hstep s s' h = hxy
    cases hxy with
    | none => exact .none
    | some hq => exact ih hq

/-- Related states come to related ends. -/
theorem Ends.exists_of_rel (hstep : ∀ s s', Q s s' → Option.Rel Q (step s) (step s'))
    {s s' t : σ} (h : Q s s') (ht : Ends step s t) : ∃ t', Ends step s' t' ∧ Q t t' := by
  obtain ⟨⟨n, hn⟩, hend⟩ := ht
  have hafter := rel_after hstep n h
  rw [hn] at hafter
  generalize hn' : after step n s' = y at hafter
  cases hafter with
  | @some _ t' hq =>
    have hnext := hstep t t' hq
    rw [hend] at hnext
    generalize hend' : step t' = z at hnext
    cases hnext with
    | none => exact ⟨t', ⟨⟨n, hn'⟩, hend'⟩, hq⟩

end

/-! ### Computations with a bound -/

/-- A computation agrees with a machine: the machine reaches what the computation results in.  When
there is no result, the machine takes as many steps as there are rounds, or it gets stuck. -/
def Tracks (step : σ → Option σ) (stuck : σ → Prop) (rounds : ℕ) (s : σ) (x : Option α)
    (target : α → σ) : Prop :=
  match x with
  | some a => Leads step s (target a)
  | none => (∃ t, after step rounds s = some t) ∨ ∃ t, Ends step s t ∧ stuck t

namespace Tracks

variable {stuck : σ → Prop} {rounds : ℕ} {s : σ}

theorem of_leads {a : α} {target : α → σ} (h : Leads step s (target a)) :
    Tracks step stuck rounds s (some a) target := h

theorem none_zero {target : α → σ} : Tracks step stuck 0 s none target := .inl ⟨s, rfl⟩

theorem none_of_stuck {target : α → σ} (hend : step s = none) (hstuck : stuck s) :
    Tracks step stuck rounds s none target := .inr ⟨s, ⟨.refl s, hend⟩, hstuck⟩

theorem leads {x : Option α} {target : α → σ} (h : Tracks step stuck rounds s x target) {a : α}
    (hx : x = some a) : Leads step s (target a) := by
  subst hx
  exact h

theorem mono {x : Option α} {target : α → σ} {fewer : ℕ} (h : Tracks step stuck rounds s x target)
    (hle : fewer ≤ rounds) : Tracks step stuck fewer s x target := by
  cases x with
  | some a => exact h
  | none => exact h.imp_left fun ⟨_, ht⟩ => exists_after_of_le hle ht

theorem head {x : Option α} {target : α → σ} {s₁ : σ} (hs : step s = some s₁)
    (h : Tracks step stuck rounds s₁ x target) : Tracks step stuck (rounds + 1) s x target := by
  cases x with
  | some a => exact Leads.head hs h
  | none =>
    exact h.imp (fun ⟨t, ht⟩ => ⟨t, (after_succ_of_step hs).trans ht⟩)
      fun ⟨t, hends, hstuck⟩ => ⟨t, ⟨hends.1.head hs, hends.2⟩, hstuck⟩

theorem of_leads_of_tracks {x : Option α} {target : α → σ} {s₁ : σ} (hs : Leads step s s₁)
    (h : Tracks step stuck rounds s₁ x target) : Tracks step stuck rounds s x target := by
  cases x with
  | some a => exact hs.trans h
  | none =>
    rcases h with ⟨t, ht⟩ | ⟨t, hends, hstuck⟩
    · obtain ⟨n, hn⟩ := hs
      have : after step (n + rounds) s = some t := by rw [after_add, hn, Option.bind_some, ht]
      exact .inl (exists_after_of_le (Nat.le_add_left rounds n) this)
    · exact .inr ⟨t, ⟨hs.trans hends.1, hends.2⟩, hstuck⟩

theorem bind {x : Option α} {f : α → Option β} {middle : α → σ} {target : β → σ}
    (h : Tracks step stuck rounds s x middle)
    (hf : ∀ a, x = some a → Tracks step stuck rounds (middle a) (f a) target) :
    Tracks step stuck rounds s (x.bind f) target := by
  cases x with
  | none => exact h
  | some a => exact of_leads_of_tracks h (hf a rfl)

theorem map {x : Option α} {f : α → β} {middle : α → σ} {target : β → σ}
    (h : Tracks step stuck rounds s x middle)
    (hf : ∀ a, x = some a → Leads step (middle a) (target (f a))) :
    Tracks step stuck rounds s (x.map f) target := by
  cases x with
  | none => exact h
  | some a => exact Leads.trans h (hf a rfl)

/-- **A computation has a result for some bound iff the machine comes to an end and is not stuck
there**, and then they are the same. -/
theorem exists_iff_ends {x : ℕ → Option α} {target : α → σ} (hinj : target.Injective)
    (hend : ∀ a, step (target a) = none) (hstuck : ∀ a, ¬stuck (target a))
    (h : ∀ rounds, Tracks step stuck rounds s (x rounds) target) {a : α} :
    (∃ rounds, x rounds = some a) ↔ Ends step s (target a) := by
  constructor
  · rintro ⟨rounds, hx⟩
    exact ⟨(h rounds).leads hx, hend a⟩
  · intro ha
    obtain ⟨n, hn⟩ := ha.1
    cases hx : x (n + 1) with
    | none =>
      have hnone := h (n + 1)
      rw [hx] at hnone
      rcases hnone with ⟨t, ht⟩ | ⟨t, hends, ht⟩
      · rw [after_succ_eq_none_of_end hn ha.2] at ht
        cases ht
      · exact absurd (ha.unique hends ▸ ht) (hstuck a)
    | some b =>
      have hb : Ends step s (target b) := ⟨(h (n + 1)).leads hx, hend b⟩
      exact ⟨n + 1, hinj (ha.unique hb) ▸ hx⟩

end Tracks

/-! ### What is to be seen on the way -/

section

variable {ω : Type} {seen : σ → Option ω}

/-- The machine goes from one state to another and shows nothing on the way.  The state that it
comes to may have something to show. -/
inductive Glides (step : σ → Option σ) (seen : σ → Option ω) : σ → σ → Prop where
  | refl (s : σ) : Glides step seen s s
  | head {s s₁ s₂ : σ} (hseen : seen s = none) (hstep : step s = some s₁)
      (h : Glides step seen s₁ s₂) : Glides step seen s s₂

/-- The machine comes from a state to its end and shows a list of things on the way. -/
inductive Shows (step : σ → Option σ) (seen : σ → Option ω) : σ → List ω → σ → Prop where
  | nil {s : σ} (hseen : seen s = none) (hend : step s = none) : Shows step seen s [] s
  | skip {s s₁ s₂ : σ} {ws : List ω} (hseen : seen s = none) (hstep : step s = some s₁)
      (h : Shows step seen s₁ ws s₂) : Shows step seen s ws s₂
  | cons {s s₁ s₂ : σ} {w : ω} {ws : List ω} (hseen : seen s = some w) (hstep : step s = some s₁)
      (h : Shows step seen s₁ ws s₂) : Shows step seen s (w :: ws) s₂

/-- The machine goes from one state to another and shows a list of things on the way.  What the last
state has to show is not among them. -/
inductive Passes (step : σ → Option σ) (seen : σ → Option ω) : σ → List ω → σ → Prop where
  | refl (s : σ) : Passes step seen s [] s
  | skip {s s₁ s₂ : σ} {ws : List ω} (hseen : seen s = none) (hstep : step s = some s₁)
      (h : Passes step seen s₁ ws s₂) : Passes step seen s ws s₂
  | cons {s s₁ s₂ : σ} {w : ω} {ws : List ω} (hseen : seen s = some w) (hstep : step s = some s₁)
      (h : Passes step seen s₁ ws s₂) : Passes step seen s (w :: ws) s₂

theorem Glides.trans {s s₁ s₂ : σ} (h : Glides step seen s s₁) (h' : Glides step seen s₁ s₂) :
    Glides step seen s s₂ := by
  induction h with
  | refl => exact h'
  | head hseen hstep _ ih => exact .head hseen hstep (ih h')

theorem Glides.leads {s s' : σ} (h : Glides step seen s s') : Leads step s s' := by
  induction h with
  | refl s => exact .refl s
  | head _ hstep _ ih => exact .head hstep ih

/-- Who sees less sees nothing either. -/
theorem Glides.reseen {ω₁ : Type} {seen₁ : σ → Option ω₁} {s s' : σ} (h : Glides step seen s s')
    (hnone : ∀ s, seen s = none → seen₁ s = none) : Glides step seen₁ s s' := by
  induction h with
  | refl s => exact .refl s
  | head hseen hstep _ ih => exact .head (hnone _ hseen) hstep ih

theorem Shows.of_glides {s s₁ s' : σ} {ws : List ω} (h : Glides step seen s s₁)
    (h' : Shows step seen s₁ ws s') : Shows step seen s ws s' := by
  induction h with
  | refl => exact h'
  | head hseen hstep _ ih => exact .skip hseen hstep (ih h')

theorem Shows.ends {s s' : σ} {ws : List ω} (h : Shows step seen s ws s') : Ends step s s' := by
  induction h with
  | @nil s _ hend => exact ⟨.refl s, hend⟩
  | skip _ hstep _ ih => exact ⟨ih.1.head hstep, ih.2⟩
  | cons _ hstep _ ih => exact ⟨ih.1.head hstep, ih.2⟩

theorem Shows.exists_cons {s s' : σ} {w : ω} {ws : List ω} (h : Shows step seen s ws s')
    (hseen : seen s = some w) : ∃ ws', ws = w :: ws' := by
  cases h with
  | nil hnone | skip hnone =>
    rw [hseen] at hnone
    cases hnone
  | cons hw =>
    obtain rfl := Option.some.inj (hw.symm.trans hseen)
    exact ⟨_, rfl⟩

/-- What is shown is what there is to be seen at first and what is shown from the next state on. -/
theorem Shows.exists_of_step {s s₁ s' : σ} {ws : List ω} (h : Shows step seen s ws s')
    (hstep : step s = some s₁) :
    ∃ ws', ws = (seen s).toList ++ ws' ∧ Shows step seen s₁ ws' s' := by
  cases h with
  | nil _ hend =>
    rw [hend] at hstep
    cases hstep
  | skip hseen hstep' h =>
    obtain rfl := Option.some.inj (hstep.symm.trans hstep')
    exact ⟨ws, by rw [hseen, Option.toList_none, List.nil_append], h⟩
  | @cons _ _ _ w ws hseen hstep' h =>
    obtain rfl := Option.some.inj (hstep.symm.trans hstep')
    exact ⟨ws, by rw [hseen, Option.toList_some, List.singleton_append], h⟩

/-- What holds at first and is kept by every step at which nothing is shown holds of the end, if
nothing is shown at all. -/
theorem Shows.invariant_of_nil {I : σ → Prop} {s s' : σ} (h : Shows step seen s [] s') (h₀ : I s)
    (hstep : ∀ t t', I t → seen t = none → step t = some t' → I t') : I s' := by
  generalize hws : ([] : List ω) = ws at h
  induction h with
  | nil => exact h₀
  | skip hseen hnext _ ih => exact ih (hstep _ _ h₀ hseen hnext) hws
  | cons => cases hws

theorem Shows.of_end {s s' : σ} {ws : List ω} (h : Shows step seen s ws s') (hend : step s = none) :
    s = s' ∧ ws = [] := by
  cases h with
  | nil => exact ⟨rfl, rfl⟩
  | skip _ hstep | cons _ hstep =>
    rw [hend] at hstep
    cases hstep

theorem Ends.shows {s s' : σ} (h : Ends step s s') (hseen : seen s' = none) :
    ∃ ws, Shows step seen s ws s' := by
  obtain ⟨⟨n, hn⟩, hend⟩ := h
  induction n generalizing s with
  | zero =>
    obtain rfl : s = s' := Option.some.inj hn
    exact ⟨[], .nil hseen hend⟩
  | succ n ih =>
    rw [after_succ] at hn
    obtain ⟨t, ht, hn⟩ := Option.bind_eq_some_iff.1 hn
    obtain ⟨ws, hws⟩ := ih hn
    cases hs : seen s with
    | none => exact ⟨ws, .skip hs ht hws⟩
    | some w => exact ⟨w :: ws, .cons hs ht hws⟩

theorem Passes.leads {s s' : σ} {ws : List ω} (h : Passes step seen s ws s') : Leads step s s' := by
  induction h with
  | refl s => exact .refl s
  | skip _ hstep _ ih | cons _ hstep _ ih => exact .head hstep ih

theorem Passes.of_end {s s' : σ} {ws : List ω} (h : Passes step seen s ws s')
    (hend : step s = none) : s = s' ∧ ws = [] := by
  cases h with
  | refl => exact ⟨rfl, rfl⟩
  | skip _ hstep | cons _ hstep =>
    rw [hend] at hstep
    cases hstep

theorem Passes.exists_of_step {s s₁ s' : σ} {ws : List ω} (h : Passes step seen s ws s')
    (hne : s ≠ s') (hstep : step s = some s₁) :
    ∃ ws', ws = (seen s).toList ++ ws' ∧ Passes step seen s₁ ws' s' := by
  cases h with
  | refl => exact absurd rfl hne
  | skip hseen hstep' h =>
    obtain rfl := Option.some.inj (hstep.symm.trans hstep')
    exact ⟨ws, by rw [hseen, Option.toList_none, List.nil_append], h⟩
  | @cons _ _ _ w ws hseen hstep' h =>
    obtain rfl := Option.some.inj (hstep.symm.trans hstep')
    exact ⟨ws, by rw [hseen, Option.toList_some, List.singleton_append], h⟩

/-- What holds at first and is kept by every step, together with what has been shown so far, holds
of what is reached together with what is shown on the way. -/
theorem Passes.invariant {I : List ω → σ → Prop} {s s' : σ} {ws : List ω}
    (h : Passes step seen s ws s') (h₀ : I [] s)
    (hstep : ∀ ws t t', I ws t → step t = some t' → I (ws ++ (seen t).toList) t') : I ws s' := by
  -- the induction follows the path, so what has been shown before it begins is arbitrary
  suffices hall : ∀ before, I before s → I (before ++ ws) s' from hall [] h₀
  clear h₀
  induction h with
  | refl s =>
    intro before hs
    rwa [List.append_nil]
  | skip hseen hnext _ ih =>
    intro before hs
    have hs₁ := hstep before _ _ hs hnext
    rw [hseen, Option.toList_none, List.append_nil] at hs₁
    exact ih before hs₁
  | cons hseen hnext _ ih =>
    intro before hs
    have hs₁ := hstep before _ _ hs hnext
    rw [hseen, Option.toList_some] at hs₁
    rw [List.append_cons]
    exact ih _ hs₁

/-! ### Machines that do not come to an end -/

/-- A machine that can always go on does not come to an end. -/
theorem not_ends_of_progress {I : σ → Prop} (hstep : ∀ t, I t → ∃ t', step t = some t' ∧ I t')
    {s : σ} (hs : I s) : ¬∃ s', Ends step s s' := by
  rintro ⟨s', hlead, hend⟩
  have hs' : I s' := hlead.invariant hs fun t t' ht hnext => by
    obtain ⟨t₁, hnext', ht₁⟩ := hstep t ht
    obtain rfl := Option.some.inj (hnext.symm.trans hnext')
    exact ht₁
  obtain ⟨t, hnext, -⟩ := hstep s' hs'
  rw [hend] at hnext
  cases hnext

/-- What is to be seen in a number of steps. -/
def sights (step : σ → Option σ) (seen : σ → Option ω) : ℕ → σ → List ω
  | 0, _ => []
  | n + 1, s =>
    (seen s).toList ++
      match step s with
      | none => []
      | some s' => sights step seen n s'

theorem passes_of_after {n : ℕ} {s s' : σ} (h : after step n s = some s') :
    Passes step seen s (sights step seen n s) s' := by
  induction n generalizing s with
  | zero =>
    obtain rfl : s = s' := Option.some.inj h
    exact .refl s
  | succ n ih =>
    rw [after_succ] at h
    obtain ⟨t, ht, hn⟩ := Option.bind_eq_some_iff.1 h
    have hrest := ih hn
    rw [sights, ht]
    cases hs : seen s with
    | none => exact .skip hs ht hrest
    | some w => exact .cons hs ht hrest

theorem Glides.exists_sights_eq {s s' : σ} (h : Glides step seen s s') :
    ∃ k, ∀ n, sights step seen (n + k) s = sights step seen n s' := by
  induction h with
  | refl => exact ⟨0, fun _ => rfl⟩
  | @head s s₁ _ hseen hstep _ ih =>
    obtain ⟨k, hk⟩ := ih
    refine ⟨k + 1, fun n => ?_⟩
    rw [← hk n, ← Nat.add_assoc, sights, hseen, hstep]
    rfl

/-- A machine that comes to an end shows only so much on the way. -/
theorem Ends.length_sights_le {s s' : σ} (h : Ends step s s') :
    ∃ b, ∀ n, (sights step seen n s).length ≤ b := by
  obtain ⟨⟨k, hk⟩, hend⟩ := h
  refine ⟨k + 1, fun n => ?_⟩
  have hone (s : σ) : (seen s).toList.length ≤ 1 := by cases seen s <;> simp
  induction k generalizing s n with
  | zero =>
    obtain rfl : s = s' := Option.some.inj hk
    cases n with
    | zero => exact Nat.zero_le _
    | succ n =>
      rw [sights, hend, List.append_nil]
      exact hone s
  | succ k ih =>
    rw [after_succ] at hk
    obtain ⟨t, ht, hk⟩ := Option.bind_eq_some_iff.1 hk
    cases n with
    | zero => exact Nat.zero_le _
    | succ n =>
      rw [sights, ht, List.length_append, Nat.add_comm]
      exact Nat.add_le_add (ih hk n) (hone s)

/-- **A machine that always comes to an end or to where there is something to be seen comes to an
end exactly if it shows only so much.** -/
theorem exists_ends_iff_bounded
    (hprogress : ∀ s, ∃ s', Glides step seen s s' ∧ (step s' = none ∨ (seen s').isSome)) (s : σ) :
    (∃ s', Ends step s s') ↔ ∃ b, ∀ n, (sights step seen n s).length ≤ b := by
  constructor
  · rintro ⟨s', h⟩
    exact h.length_sights_le
  rintro ⟨b, hb⟩
  -- one thing less is to be seen after the next one
  induction b generalizing s with
  | zero =>
    obtain ⟨s', hglide, hend | hseen⟩ := hprogress s
    · exact ⟨s', hglide.leads, hend⟩
    · obtain ⟨k, hk⟩ := hglide.exists_sights_eq
      obtain ⟨w, hw⟩ := Option.isSome_iff_exists.1 hseen
      have hone := hb (1 + k)
      rw [hk, sights, hw] at hone
      simp at hone
  | succ b ih =>
    obtain ⟨s', hglide, hend | hseen⟩ := hprogress s
    · exact ⟨s', hglide.leads, hend⟩
    · cases hnext : step s' with
      | none => exact ⟨s', hglide.leads, hnext⟩
      | some t =>
        obtain ⟨k, hk⟩ := hglide.exists_sights_eq
        obtain ⟨w, hw⟩ := Option.isSome_iff_exists.1 hseen
        obtain ⟨s'', hlead, hend⟩ := ih t fun n => by
          have hmore := hb (n + 1 + k)
          rw [hk, sights, hw, hnext] at hmore
          simpa using hmore
        exact ⟨s'', (hglide.leads.tail hnext).trans hlead, hend⟩

end

/-! ### A machine with larger steps -/

section

variable {τ ω ω' : Type} {next : τ → Option τ} {seen : σ → Option ω} {seen' : τ → Option ω'}
  {view : ω' → ω} {Q : σ → τ → Prop}

/-- One machine does in single steps what takes the other one many, and both show the same up to a
view: related states are ends of both, or show the same thing and then come to related states. -/
structure Refines (step : σ → Option σ) (seen : σ → Option ω) (next : τ → Option τ)
    (seen' : τ → Option ω') (view : ω' → ω) (Q : σ → τ → Prop) : Prop where
  ends : ∀ s t, Q s t → next t = none → step s = none ∧ seen s = none ∧ seen' t = none
  steps : ∀ s t t', Q s t → next t = some t' →
    ∃ w s₁ s', seen s = some (view w) ∧ seen' t = some w ∧ step s = some s₁ ∧
      Glides step seen s₁ s' ∧ Q s' t'

namespace Refines

variable {s s' : σ} {t t' : τ} {ws : List ω} {ws' : List ω'}

/-- The same machines, looked at in another way. -/
theorem reseen {ω₁ ω₁' : Type} {seen₁ : σ → Option ω₁} {seen₁' : τ → Option ω₁'}
    {view₁ : ω₁' → ω₁} (h : Refines step seen next seen' view Q)
    (hnone : ∀ s, seen s = none → seen₁ s = none) (hnone' : ∀ t, seen' t = none → seen₁' t = none)
    (hsome : ∀ s t t', Q s t → next t = some t' →
      ∃ w, seen₁ s = some (view₁ w) ∧ seen₁' t = some w) :
    Refines step seen₁ next seen₁' view₁ Q where
  ends s t hQ hnext := by
    obtain ⟨hstep, hs, ht⟩ := h.ends s t hQ hnext
    exact ⟨hstep, hnone s hs, hnone' t ht⟩
  steps s t t' hQ hnext := by
    obtain ⟨w, hs, ht⟩ := hsome s t t' hQ hnext
    obtain ⟨_, s₁, s', -, -, hstep, hglide, hQ'⟩ := h.steps s t t' hQ hnext
    exact ⟨w, s₁, s', hs, ht, hstep, hglide.reseen hnone, hQ'⟩

theorem shows (h : Refines step seen next seen' view Q) (hQ : Q s t)
    (ht : Shows next seen' t ws' t') : ∃ s', Shows step seen s (ws'.map view) s' ∧ Q s' t' := by
  induction ht generalizing s with
  | @nil t _ hend =>
    obtain ⟨hstep, hseen, -⟩ := h.ends s t hQ hend
    exact ⟨s, .nil hseen hstep, hQ⟩
  | skip hseen hstep _ ih =>
    obtain ⟨w, s₁, s', -, hw, -⟩ := h.steps _ _ _ hQ hstep
    rw [hseen] at hw
    cases hw
  | cons hseen hstep _ ih =>
    obtain ⟨w, s₁, s', hs, hw, hstep', hglide, hQ'⟩ := h.steps _ _ _ hQ hstep
    rw [hseen] at hw
    obtain rfl := Option.some.inj hw
    obtain ⟨s'', hshows, hQ''⟩ := ih hQ'
    exact ⟨s'', .cons hs hstep' (.of_glides hglide hshows), hQ''⟩

/-- Wherever the machine with small steps has something to show, it is at a state that is related to
one of the other machine. -/
theorem exists_of_leads (h : Refines step seen next seen' view Q) {s₁ : σ}
    (hglide : Glides step seen s s₁) (hQ : Q s₁ t) (hlead : Leads step s s')
    (hseen : seen s' ≠ none) : ∃ t', Leads next t t' ∧ Q s' t' := by
  obtain ⟨n, hn⟩ := hlead
  induction n generalizing s s₁ t with
  | zero =>
    obtain rfl : s = s' := Option.some.inj hn
    cases hglide with
    | refl => exact ⟨t, .refl t, hQ⟩
    | head hnone => exact absurd hnone hseen
  | succ n ih =>
    rw [after_succ] at hn
    obtain ⟨s₂, hstep, hn⟩ := Option.bind_eq_some_iff.1 hn
    cases hglide with
    | refl =>
      cases hnext : next t with
      | none =>
        rw [(h.ends s t hQ hnext).1] at hstep
        cases hstep
      | some t₁ =>
        obtain ⟨w, s₃, s₄, -, -, hstep', hrest, hQ'⟩ := h.steps s t t₁ hQ hnext
        obtain rfl := Option.some.inj (hstep.symm.trans hstep')
        obtain ⟨t', hlead, hQ'⟩ := ih hrest hQ' hn
        exact ⟨t', hlead.head hnext, hQ'⟩
    | head _ hstep' hrest =>
      obtain rfl := Option.some.inj (hstep.symm.trans hstep')
      exact ih hrest hQ hn

/-- The other direction.  The machine with small steps may be on the way to the state that is
related; on that way it shows nothing. -/
theorem shows_of_glides (h : Refines step seen next seen' view Q) (hs : Shows step seen s ws s')
    {s₁ : σ} (hglide : Glides step seen s s₁) (hQ : Q s₁ t) :
    ∃ ws' t', ws = ws'.map view ∧ Shows next seen' t ws' t' ∧ Q s' t' := by
  -- at a state that is related there is something to show, unless it is an end
  induction hs generalizing s₁ t with
  | @nil s hseen hend =>
    cases hglide with
    | refl =>
      cases hnext : next t with
      | none => exact ⟨[], t, rfl, .nil (h.ends s t hQ hnext).2.2 hnext, hQ⟩
      | some t' =>
        obtain ⟨w, s₁, s', hw, -⟩ := h.steps s t t' hQ hnext
        rw [hseen] at hw
        cases hw
    | head _ hstep _ =>
      rw [hend] at hstep
      cases hstep
  | @skip s s₂ s' ws hseen hstep _ ih =>
    cases hglide with
    | refl =>
      cases hnext : next t with
      | none =>
        rw [(h.ends s t hQ hnext).1] at hstep
        cases hstep
      | some t' =>
        obtain ⟨w, s₁, s', hw, -⟩ := h.steps s t t' hQ hnext
        rw [hseen] at hw
        cases hw
    | head _ hstep' hrest =>
      obtain rfl := Option.some.inj (hstep.symm.trans hstep')
      exact ih hrest hQ
  | @cons s s₂ s' w ws hseen hstep _ ih =>
    cases hglide with
    | refl =>
      cases hnext : next t with
      | none =>
        rw [(h.ends s t hQ hnext).1] at hstep
        cases hstep
      | some t' =>
        obtain ⟨w', s₁, s₃, hw, hw', hstep', hrest, hQ'⟩ := h.steps s t t' hQ hnext
        obtain rfl := Option.some.inj (hseen.symm.trans hw)
        obtain rfl := Option.some.inj (hstep.symm.trans hstep')
        obtain ⟨ws', t'', rfl, hshows, hQ''⟩ := ih hrest hQ'
        exact ⟨w' :: ws', t'', rfl, .cons hw' hnext hshows, hQ''⟩
    | head hseen' _ _ =>
      rw [hseen] at hseen'
      cases hseen'

end Refines

end

end Stepping

end Parley

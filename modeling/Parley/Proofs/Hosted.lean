import Mathlib.Tactic.Common
import Parley.Host

/-!
# Computations on a host

Computations that make requests obey the laws of sequencing, and so do those that may fail and those
that work on a state.  `StatefulAttempt.runWith` runs such a computation on a host from a state of
its own.

`Meets P x Q` says that `x` comes from states at which `P` holds to states at which `Q` holds,
unless it fails, whatever its requests are answered.  Such statements are put together along
sequencing, and they hold of every run on any host (`Meets.runWith`).
-/

namespace Parley

variable {α β σ η : Type}

namespace HostM

instance : LawfulMonad HostM :=
  LawfulMonad.mk' HostM
    (fun x => by
      induction x with
      | done value => rfl
      | ask request next ih => exact congrArg (ask request) (funext ih)
      | abort => rfl)
    (fun _ _ => rfl)
    (fun x f g => by
      induction x with
      | done value => rfl
      | ask request next ih => exact congrArg (ask request) (funext ih)
      | abort => rfl)

/-- Whatever a computation is answered, its value has a property. -/
def Always (P : α → Prop) : HostM α → Prop
  | done value => P value
  | ask request next => ∀ answer : request.Answer, Always P (next answer)
  | abort => True

variable {P : α → Prop} {Q : β → Prop} {x : HostM α} {f : α → HostM β}

theorem Always.bind (hx : x.Always P) (hf : ∀ a, P a → (f a).Always Q) : (x >>= f).Always Q := by
  induction x with
  | done value => exact hf value hx
  | ask request next ih => exact fun answer => ih answer (hx answer)
  | abort => trivial

theorem Always.mono {P' : α → Prop} (hx : x.Always P) (h : ∀ a, P a → P' a) : x.Always P' := by
  induction x with
  | done value => exact h value hx
  | ask request next ih => exact fun answer => ih answer (hx answer)
  | abort => trivial

theorem Always.and {P' : α → Prop} (hx : x.Always P) (hx' : x.Always P') :
    x.Always fun a => P a ∧ P' a := by
  induction x with
  | done value => exact ⟨hx, hx'⟩
  | ask request next ih => exact fun answer => ih answer (hx answer) (hx' answer)
  | abort => trivial

theorem always_of_forall (h : ∀ a, P a) (x : HostM α) : x.Always P := by
  induction x with
  | done value => exact h value
  | ask request next ih => exact ih
  | abort => trivial

theorem Always.run {host : (r : Request) → η → Option (r.Answer × η)} (hx : x.Always P) {w w' : η}
    {a : α} (h : run host x w = some (a, w')) : P a := by
  induction x generalizing w with
  | done value =>
    obtain ⟨rfl, rfl⟩ := Prod.mk.inj (Option.some.inj h)
    exact hx
  | ask request next ih =>
    obtain ⟨⟨answer, w₁⟩, -, h⟩ := Option.bind_eq_some_iff.1 h
    exact ih answer (hx answer) h
  | abort => cases h

/-- A computation that knows no state and cannot fail does not fail, and leaves the state. -/
theorem always_liftHost (hx : x.Always P) (s : σ) :
    ((MonadLiftT.monadLift x : StatefulAttempt σ α).run.run s).Always
      fun y => ∃ a, P a ∧ y = (.ok a, s) := by
  have hvalue : ((ExceptT.lift x : Attempt α).run).Always fun o => ∃ a, P a ∧ o = .ok a :=
    Always.bind hx fun a ha => ⟨a, ha, rfl⟩
  refine Always.bind hvalue ?_
  rintro _ ⟨a, ha, rfl⟩
  exact ⟨a, ha, rfl⟩

/-- Whatever a computation is answered, its requests have one property and its value has another
one. -/
def Within (R : Request → Prop) (P : α → Prop) : HostM α → Prop
  | done value => P value
  | ask request next => R request ∧ ∀ answer : request.Answer, Within R P (next answer)
  | abort => True

theorem Within.bind {R : Request → Prop} (hx : x.Within R P) (hf : ∀ a, P a → (f a).Within R Q) :
    (x >>= f).Within R Q := by
  induction x with
  | done value => exact hf value hx
  | ask request next ih => exact ⟨hx.1, fun answer => ih answer (hx.2 answer)⟩
  | abort => trivial

theorem Within.mono {R : Request → Prop} {P' : α → Prop} (hx : x.Within R P)
    (h : ∀ a, P a → P' a) : x.Within R P' := by
  induction x with
  | done value => exact h value hx
  | ask request next ih => exact ⟨hx.1, fun answer => ih answer (hx.2 answer)⟩
  | abort => trivial

end HostM

/-- From states at which one property holds a computation comes to a value and a state at which
another one holds, unless it fails. -/
def Meets (P : σ → Prop) (x : StatefulAttempt σ α) (Q : α → σ → Prop) : Prop :=
  ∀ s, P s → (x.run.run s).Always fun y => ∀ a, y.1 = .ok a → Q a y.2

namespace Meets

variable {P : σ → Prop} {x : StatefulAttempt σ α} {Q : α → σ → Prop} {f : α → StatefulAttempt σ β}
  {R : β → σ → Prop}

theorem bind (hx : Meets P x Q) (hf : ∀ a, Meets (Q a) (f a) R) : Meets P (x >>= f) R := by
  intro s hs
  refine HostM.Always.bind (hx s hs) ?_
  rintro ⟨o, s'⟩ hQ
  cases o with
  | ok a => exact hf a s' (hQ a rfl)
  | error e => exact fun b hb => by cases hb

theorem pure {a : α} (h : ∀ s, P s → Q a s) : Meets P (pure a) Q := by
  rintro s hs b hb
  obtain rfl := Except.ok.inj hb
  exact h s hs

theorem throw (e : DialogError) : Meets P (throw e : StatefulAttempt σ α) Q :=
  fun _ _ _ h => by cases h

theorem abort : Meets P (Attempt.abort : StatefulAttempt σ α) Q := fun _ _ => trivial

theorem get {Q : σ → σ → Prop} (h : ∀ s, P s → Q s s) :
    Meets P (get : StatefulAttempt σ σ) Q := by
  rintro s hs a ha
  obtain rfl := Except.ok.inj ha
  exact h s hs

theorem set {s' : σ} {Q : PUnit → σ → Prop} (h : ∀ s, P s → Q ⟨⟩ s') :
    Meets P (set s' : StatefulAttempt σ PUnit) Q := fun s hs _ _ => h s hs

theorem modify {g : σ → σ} {Q : PUnit → σ → Prop} (h : ∀ s, P s → Q ⟨⟩ (g s)) :
    Meets P (modify g : StatefulAttempt σ PUnit) Q := fun s hs _ _ => h s hs

theorem tryCatch {handler : DialogError → StatefulAttempt σ α}
    (hx : ∀ s, P s → (x.run.run s).Always fun y =>
      match y.1 with
      | .ok a => Q a y.2
      | .error _ => P y.2)
    (hhandler : ∀ e, Meets P (handler e) Q) : Meets P (tryCatch x handler) Q := by
  intro s hs
  refine HostM.Always.bind (hx s hs) ?_
  rintro ⟨o, s'⟩ ho
  cases o with
  | ok a =>
    rintro b hb
    obtain rfl := Except.ok.inj hb
    exact ho
  | error e => exact hhandler e s' ho

theorem mono {Q' : α → σ → Prop} (hx : Meets P x Q) (h : ∀ a s, Q a s → Q' a s) :
    Meets P x Q' := fun s hs => (hx s hs).mono fun _ hy a ha => h a _ (hy a ha)

theorem strengthen {P' : σ → Prop} (hx : Meets P x Q) (h : ∀ s, P' s → P s) : Meets P' x Q :=
  fun s hs => hx s (h s hs)

end Meets

/-- Whatever a computation is answered, its value has a property, unless it fails. -/
abbrev Brings (x : StatefulAttempt σ α) (P : α → Prop) : Prop :=
  Meets (fun _ => True) x fun a _ => P a

namespace Brings

variable {x : StatefulAttempt σ α} {P : α → Prop} {f : α → StatefulAttempt σ β} {Q : β → Prop}

theorem of_forall (h : ∀ a, P a) (x : StatefulAttempt σ α) : Brings x P :=
  fun _ _ => HostM.always_of_forall (fun _ _ _ => h _) _

theorem bind (hx : Brings x P) (hf : ∀ a, P a → Brings (f a) Q) : Brings (x >>= f) Q :=
  Meets.bind hx fun a s ha => hf a ha s trivial

theorem meets {R : σ → Prop} {S : α → σ → Prop} (hx : Brings x P) (h : ∀ a s, P a → S a s) :
    Meets R x S := (hx.strengthen fun _ _ => trivial).mono fun a s ha => h a s ha

theorem andThen (x : StatefulAttempt σ α) (hf : ∀ a, Brings (f a) Q) : Brings (x >>= f) Q :=
  (of_forall (fun _ => trivial) x).bind fun a _ => hf a

theorem pure {a : α} (h : P a) : Brings (Pure.pure a : StatefulAttempt σ α) P :=
  Meets.pure fun _ _ => h

theorem throw (e : DialogError) : Brings (throw e : StatefulAttempt σ α) P := Meets.throw e

theorem abort : Brings (Attempt.abort : StatefulAttempt σ α) P := Meets.abort

theorem tryCatch {handler : DialogError → StatefulAttempt σ α} (hx : Brings x P)
    (hhandler : ∀ e, Brings (handler e) P) : Brings (tryCatch x handler) P := by
  refine Meets.tryCatch (fun s hs => (hx s hs).mono fun y hy => ?_) hhandler
  obtain ⟨o, s'⟩ := y
  cases o with
  | ok a => exact hy a rfl
  | error e => trivial

end Brings

/-- Whether it fails or not, a computation keeps a property of the state. -/
def Retains (P : σ → Prop) (x : StatefulAttempt σ α) : Prop :=
  ∀ s, P s → (x.run.run s).Always fun y => P y.2

namespace Retains

variable {P : σ → Prop} {x : StatefulAttempt σ α} {f : α → StatefulAttempt σ β}

theorem meets (hx : Retains P x) : Meets P x fun _ => P :=
  fun s hs => (hx s hs).mono fun _ hy _ _ => hy

theorem then_meets {Q : β → σ → Prop} (hx : Retains P x) (hf : ∀ a, Meets P (f a) Q) :
    Meets P (x >>= f) Q := hx.meets.bind hf

theorem bind (hx : Retains P x) (hf : ∀ a, Retains P (f a)) : Retains P (x >>= f) := by
  intro s hs
  refine HostM.Always.bind (hx s hs) ?_
  rintro ⟨o, s'⟩ hs'
  cases o with
  | ok a => exact hf a s' hs'
  | error e => exact hs'

theorem pure (a : α) : Retains P (Pure.pure a) := fun _ hs => hs

theorem throw (e : DialogError) : Retains P (throw e : StatefulAttempt σ α) := fun _ hs => hs

theorem get_bind {f : σ → StatefulAttempt σ β} (hf : ∀ s, P s → Retains P (f s)) :
    Retains P (get >>= f) := fun s hs => hf s hs s hs

theorem get : Retains P (get : StatefulAttempt σ σ) := fun _ hs => hs

theorem set {s' : σ} (h : P s') : Retains P (set s' : StatefulAttempt σ PUnit) := fun _ _ => h

theorem modify {g : σ → σ} (h : ∀ s, P s → P (g s)) :
    Retains P (modify g : StatefulAttempt σ PUnit) := fun s hs => h s hs

theorem liftM (x : Attempt α) : Retains P (liftM x : StatefulAttempt σ α) := fun _ hs =>
  HostM.Always.bind (HostM.always_of_forall (fun _ => trivial) _) fun _ _ => hs

theorem liftHost (x : HostM α) : Retains P (MonadLiftT.monadLift x : StatefulAttempt σ α) :=
  liftM (ExceptT.lift x)

theorem liftHost_bind {x : HostM α} {V : α → Prop} (hx : x.Always V)
    (hf : ∀ a, V a → Retains P (f a)) : Retains P (MonadLiftT.monadLift x >>= f) := by
  intro s hs
  refine HostM.Always.bind (HostM.always_liftHost hx s) ?_
  rintro _ ⟨a, ha, rfl⟩
  exact hf a ha s hs

theorem tryCatch {handler : DialogError → StatefulAttempt σ α} (hx : Retains P x)
    (hhandler : ∀ e, Retains P (handler e)) : Retains P (tryCatch x handler) := by
  intro s hs
  refine HostM.Always.bind (hx s hs) ?_
  rintro ⟨o, s'⟩ hs'
  cases o with
  | ok a => exact hs'
  | error e => exact hhandler e s' hs'

theorem forM {items : List α} {f : α → StatefulAttempt σ PUnit}
    (hf : ∀ a ∈ items, Retains P (f a)) : Retains P (items.forM f) := by
  induction items with
  | nil => exact .pure _
  | cons a rest ih =>
    obtain ⟨hfirst, hrest⟩ := List.forall_mem_cons.1 hf
    exact .bind hfirst fun _ => ih hrest

end Retains

/-- From states at which one property holds a computation comes to a value and a state at which
another one holds, and where it fails it comes to a state at which a third one holds. -/
def Ensures (P : σ → Prop) (x : StatefulAttempt σ α) (Q : α → σ → Prop) (E : σ → Prop) : Prop :=
  ∀ s, P s → (x.run.run s).Always fun y =>
    match y.1 with
    | .ok a => Q a y.2
    | .error _ => E y.2

namespace Ensures

variable {P : σ → Prop} {x : StatefulAttempt σ α} {Q : α → σ → Prop} {E : σ → Prop}
  {f : α → StatefulAttempt σ β} {R : β → σ → Prop}

theorem bind (hx : Ensures P x Q E) (hf : ∀ a, Ensures (Q a) (f a) R E) :
    Ensures P (x >>= f) R E := by
  intro s hs
  refine HostM.Always.bind (hx s hs) ?_
  rintro ⟨o, s'⟩ ho
  cases o with
  | ok a => exact hf a s' ho
  | error e => exact ho

theorem pure {a : α} (h : ∀ s, P s → Q a s) : Ensures P (Pure.pure a) Q E := fun s hs => h s hs

theorem throw (e : DialogError) (h : ∀ s, P s → E s) :
    Ensures P (throw e : StatefulAttempt σ α) Q E := fun s hs => h s hs

theorem get_bind {f : σ → StatefulAttempt σ β} (hf : ∀ s, P s → Ensures (· = s) (f s) R E) :
    Ensures P (get >>= f) R E := fun s hs => hf s hs s rfl

theorem modify {g : σ → σ} {Q : PUnit → σ → Prop} (h : ∀ s, P s → Q ⟨⟩ (g s)) :
    Ensures P (modify g : StatefulAttempt σ PUnit) Q E := fun s hs => h s hs

theorem of_retains (hx : Retains P x) (hE : ∀ s, P s → E s) (hf : ∀ a, Ensures P (f a) R E) :
    Ensures P (x >>= f) R E := by
  intro s hs
  refine HostM.Always.bind (hx s hs) ?_
  rintro ⟨o, s'⟩ hs'
  cases o with
  | ok a => exact hf a s' hs'
  | error e => exact hE s' hs'

theorem liftHost_bind {x : HostM α} {V : α → Prop} (hx : x.Always V)
    (hf : ∀ a, V a → Ensures P (f a) R E) : Ensures P (MonadLiftT.monadLift x >>= f) R E := by
  intro s hs
  refine HostM.Always.bind (HostM.always_liftHost hx s) ?_
  rintro _ ⟨a, ha, rfl⟩
  exact hf a ha s hs

theorem strengthen {P' : σ → Prop} (hx : Ensures P x Q E) (h : ∀ s, P' s → P s) :
    Ensures P' x Q E := fun s hs => hx s (h s hs)

theorem weaken {Q' : α → σ → Prop} {E' : σ → Prop} (hx : Ensures P x Q E)
    (hQ : ∀ a s, Q a s → Q' a s) (hE : ∀ s, E s → E' s) : Ensures P x Q' E' := fun s hs =>
  (hx s hs).mono fun y hy => by
    obtain ⟨o, s'⟩ := y
    cases o with
    | ok a => exact hQ a s' hy
    | error e => exact hE s' hy

theorem assuming {F : Prop} (h : F → Ensures P x Q E) : Ensures (fun s => F ∧ P s) x Q E :=
  fun s hs => h hs.1 s hs.2

end Ensures

/-- A property that is kept, and what is known of the value. -/
theorem Retains.ensures {P : σ → Prop} {x : StatefulAttempt σ α} {V : α → Prop} (hx : Retains P x)
    (hV : Brings x V) : Ensures P x (fun a s => V a ∧ P s) P := fun s hs =>
  ((hx s hs).and (hV s trivial)).mono fun y hy => by
    obtain ⟨o, s'⟩ := y
    cases o with
    | ok a => exact ⟨hy.2 a rfl, hy.1⟩
    | error e => exact hy.1

namespace StatefulAttempt

variable {host : (r : Request) → η → Option (r.Answer × η)} {x : StatefulAttempt σ α} {s s' : σ}
  {w w' : η}

/-- Run a computation on a host. -/
def runWith (host : (r : Request) → η → Option (r.Answer × η)) (x : StatefulAttempt σ α) (s : σ)
    (w : η) : Option ((Except DialogError α × σ) × η) :=
  HostM.run host (x.run.run s) w

theorem runWith_bind (x : StatefulAttempt σ α) (f : α → StatefulAttempt σ β) (s : σ) (w : η) :
    runWith host (x >>= f) s w = (runWith host x s w).bind fun ((o, s'), w') =>
      match o with
      | .ok a => runWith host (f a) s' w'
      | .error e => some ((.error e, s'), w') := by
  refine (HostM.run_bind _ (x.run.run s) _ w).trans (Option.bind_congr fun y _ => ?_)
  obtain ⟨⟨o, s'⟩, w'⟩ := y
  cases o <;> rfl

/-- What has come of a computation is what the next one goes on from. -/
theorem runWith_bind_of_ok {a : α} (h : runWith host x s w = some ((.ok a, s'), w'))
    (f : α → StatefulAttempt σ β) :
    runWith host (x >>= f) s w = runWith host (f a) s' w' := by
  rw [runWith_bind, h]
  rfl

theorem runWith_tryCatch_of_ok {a : α} (h : runWith host x s w = some ((.ok a, s'), w'))
    (handler : DialogError → StatefulAttempt σ α) :
    runWith host (tryCatch x handler) s w = some ((.ok a, s'), w') := by
  refine (HostM.run_bind _ (x.run.run s) _ w).trans ?_
  rw [show HostM.run host (x.run.run s) w = _ from h]
  rfl

/-- A computation that has not failed has not failed in its first part either. -/
theorem exists_of_runWith_bind {f : α → StatefulAttempt σ β} {b : β}
    (h : runWith host (x >>= f) s w = some ((.ok b, s'), w')) :
    ∃ a s₁ w₁, runWith host x s w = some ((.ok a, s₁), w₁) ∧
      runWith host (f a) s₁ w₁ = some ((.ok b, s'), w') := by
  rw [runWith_bind] at h
  obtain ⟨⟨⟨o, s₁⟩, w₁⟩, hx, hf⟩ := Option.bind_eq_some_iff.1 h
  cases o with
  | ok a => exact ⟨a, s₁, w₁, hx, hf⟩
  | error e => cases hf

theorem runWith_pure (a : α) (s : σ) (w : η) :
    runWith host (pure a : StatefulAttempt σ α) s w = some ((.ok a, s), w) := rfl

theorem runWith_liftM (x : Attempt α) (s : σ) (w : η) :
    runWith host (liftM x : StatefulAttempt σ α) s w =
      (HostM.run host x.run w).map fun (o, w') => ((o, s), w') := by
  refine (HostM.run_bind host x.run (fun o => pure (o, s)) w).trans ?_
  cases HostM.run host x.run w <;> rfl

theorem runWith_finish (result : Option DialogResult) (s : σ) (w : η) :
    runWith host (Attempt.finish result : StatefulAttempt σ TurnStatus) s w =
      (host (.finish result) w).map fun (o, w') => ((o, s), w') := by
  rw [runWith_liftM]
  show Option.map _ ((host (.finish result) w).bind fun x => some (x.1, x.2)) = _
  cases host (.finish result) w <;> rfl

end StatefulAttempt

theorem Meets.runWith {P : σ → Prop} {x : StatefulAttempt σ α} {Q : α → σ → Prop}
    (hx : Meets P x Q) {host : (r : Request) → η → Option (r.Answer × η)} {s s' : σ} {w w' : η}
    {a : α} (hs : P s) (h : x.runWith host s w = some ((.ok a, s'), w')) : Q a s' :=
  (hx s hs).run h a rfl

end Parley

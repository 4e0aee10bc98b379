import Parley.Proofs.Course.Next

/-!
# The stages of a run

A `Stage` is a run in its course, together with its session and the host.  The next stage is what a
stride leads to on the host (`Dialog.next?`).  A run comes to a result exactly if its stages come to
an end, and they are the same then (`Dialog.runWith_rest_iff_ends`).
-/

namespace Parley

open Stepping StatefulAttempt

/-- A run in its course. -/
structure Stage (η : Type) where
  spot : Spot
  session : Session
  host : η

namespace Stage

variable {η : Type}

/-- The stage that a stride has led to. -/
def reached : (Except DialogError Spot × Session) × η → Stage η
  | ((.ok spot, session), w) => ⟨spot, session, w⟩
  | ((.error e, session), w) => ⟨.returned (.error e), session, w⟩

/-- The stage at which a run is over. -/
def final (x : (Except DialogError TurnStatus × Session) × η) : Stage η :=
  ⟨.returned x.1.1, x.1.2, x.2⟩

theorem final_injective : (final : _ → Stage η).Injective := by
  rintro ⟨⟨o, s⟩, w⟩ ⟨⟨o', s'⟩, w'⟩ h
  obtain ⟨ho, rfl, rfl⟩ := Stage.mk.inj h
  obtain rfl := Spot.returned.inj ho
  rfl

end Stage

namespace Dialog

variable {η : Type} (d : Dialog) (host : (r : Request) → η → Option (r.Answer × η))

/-- The next stage, if the run is not over and the host answers. -/
def next? (t : Stage η) : Option (Stage η) :=
  match t.spot with
  | .returned _ => none
  | spot => (runWith host (d.stride spot) t.session t.host).map Stage.reached

variable {d host} {t t' : Stage η}

theorem next?_eq (hspot : ∀ outcome, t.spot ≠ .returned outcome) :
    d.next? host t = (runWith host (d.stride t.spot) t.session t.host).map Stage.reached := by
  unfold next?
  split
  case h_1 outcome h => exact absurd h (hspot outcome)
  case h_2 => rfl

theorem spot_ne_returned_of_next? (h : d.next? host t = some t') :
    ∀ outcome, t.spot ≠ .returned outcome := by
  intro outcome hreturned
  rw [next?, hreturned] at h
  cases h

theorem exists_runWith_of_next? (h : d.next? host t = some t') :
    ∃ o, runWith host (d.stride t.spot) t.session t.host = some ((o, t'.session), t'.host) ∧
      (t'.spot = match o with
        | .ok spot => spot
        | .error e => .returned (.error e)) := by
  rw [next?_eq (spot_ne_returned_of_next? h)] at h
  obtain ⟨⟨⟨o, session⟩, w⟩, hrun, rfl⟩ := Option.map_eq_some_iff.1 h
  cases o <;> exact ⟨_, hrun, rfl⟩

theorem next?_of_runWith (hspot : ∀ outcome, t.spot ≠ .returned outcome) {spot : Spot} {s : Session}
    {w : η} (h : runWith host (d.stride t.spot) t.session t.host = some ((.ok spot, s), w)) :
    d.next? host t = some ⟨spot, s, w⟩ := by
  rw [next?_eq hspot, h]
  rfl

theorem next?_of_stride_eq_pure (hspot : ∀ outcome, t.spot ≠ .returned outcome) {spot : Spot}
    (h : d.stride t.spot = pure spot) : d.next? host t = some ⟨spot, t.session, t.host⟩ :=
  next?_of_runWith hspot (by rw [h]; exact runWith_pure _ _ _)

section

variable {budget : ℕ} {cursor : Location} {input : Option TurnInput} {s : Session} {w : η}

theorem next?_arriving {lines : List Line}
    (hlines : d.script.thread? cursor.thread = some lines) :
    d.next? host ⟨.arriving (budget + 1) cursor input, s, w⟩ =
      some ⟨if cursor.index = 0 then .entering budget lines ⟨cursor, input⟩
        else .settling budget lines ⟨cursor, input⟩,
        { s with thread := cursor.thread, stepIndex := cursor.index }, w⟩ := by
  refine next?_of_runWith (fun _ h => by cases h) ((runWith_bind_of_ok rfl _).trans ?_)
  simp only [hlines]
  split <;> rfl

theorem next?_arriving_of_thread?_eq_none (hnone : d.script.thread? cursor.thread = none) :
    d.next? host ⟨.arriving (budget + 1) cursor input, s, w⟩ =
      some ⟨.returned (.error (.threadNotFound d.id cursor)),
        { s with thread := cursor.thread, stepIndex := cursor.index }, w⟩ := by
  have hrun : runWith host (d.stride (.arriving (budget + 1) cursor input)) s w =
      some ((.error (.threadNotFound d.id cursor),
        { s with thread := cursor.thread, stepIndex := cursor.index }), w) := by
    refine (runWith_bind_of_ok rfl _).trans ?_
    simp only [hnone]
    rfl
  rw [next?_eq (fun _ h => by cases h), hrun]
  rfl

end

/-- A run that is not over leads along, or fails. -/
theorem next_of_next? (h : d.next? host t = some t') :
    Spot.Next d t.spot t'.spot ∨ ∃ e, t'.spot = .returned (.error e) := by
  obtain ⟨o, hrun, hreached⟩ := exists_runWith_of_next? h
  cases o with
  | ok spot =>
    obtain rfl : t'.spot = spot := hreached
    exact .inl ((d.brings_next (spot_ne_returned_of_next? h)).runWith trivial hrun)
  | error e => exact .inr ⟨e, hreached⟩

/-- What is left of a run is a stride and what is left then. -/
theorem runWith_rest (hspot : ∀ outcome, t.spot ≠ .returned outcome) :
    runWith host (d.rest t.spot) t.session t.host =
      (d.next? host t).bind fun t' => runWith host (d.rest t'.spot) t'.session t'.host := by
  rw [d.rest_eq, runWith_bind, next?_eq hspot, Option.bind_map]
  refine Option.bind_congr fun y _ => ?_
  obtain ⟨⟨o, session⟩, w⟩ := y
  cases o <;> rfl

/-- A run that is over has come to its result. -/
theorem runWith_rest_returned_iff_ends {outcome : Except DialogError TurnStatus} {s : Session}
    {w : η} {x : (Except DialogError TurnStatus × Session) × η} :
    runWith host (d.rest (.returned outcome)) s w = some x ↔
      Ends (d.next? host) ⟨.returned outcome, s, w⟩ (Stage.final x) := by
  have hrest : runWith host (d.rest (.returned outcome)) s w = some ((outcome, s), w) := by
    cases outcome <;> rfl
  have hends : Ends (d.next? host) ⟨.returned outcome, s, w⟩ (Stage.final ((outcome, s), w)) :=
    ⟨.refl _, rfl⟩
  rw [hrest]
  constructor
  · rintro hx
    obtain rfl := Option.some.inj hx
    exact hends
  · intro hx
    exact congrArg some (Stage.final_injective (hends.unique hx))

/-- **A run comes to a result exactly if its stages come to an end**, and they are the same. -/
theorem runWith_rest_iff_ends {x : (Except DialogError TurnStatus × Session) × η} (t : Stage η) :
    runWith host (d.rest t.spot) t.session t.host = some x ↔
      Ends (d.next? host) t (Stage.final x) := by
  -- the run gets closer to its end with every stride
  induction hsize : t.spot.size d using Nat.strongRecOn generalizing t with
  | _ size ih =>
    obtain ⟨spot, s, w⟩ := t
    by_cases hreturned : ∃ outcome, spot = .returned outcome
    · obtain ⟨outcome, rfl⟩ := hreturned
      exact runWith_rest_returned_iff_ends
    · rw [runWith_rest fun outcome h => hreturned ⟨outcome, h⟩]
      cases hnext : d.next? host ⟨spot, s, w⟩ with
      | none =>
        refine ⟨nofun, fun h => ?_⟩
        have hends := h.unique ⟨.refl _, hnext⟩
        exact absurd ⟨_, (congrArg Stage.spot hends).symm⟩ hreturned
      | some t =>
        have hrest : runWith host (d.rest t.spot) t.session t.host = some x ↔
            Ends (d.next? host) t (Stage.final x) := by
          rcases next_of_next? hnext with hlt | ⟨e, he⟩
          · exact ih _ (hsize ▸ hlt.size_lt) t rfl
          · obtain ⟨spot', s', w'⟩ := t
            obtain rfl : spot' = .returned (.error e) := he
            exact runWith_rest_returned_iff_ends
        exact hrest.trans ⟨fun h => ⟨h.1.head hnext, h.2⟩, fun h => h.of_head hnext⟩

end Dialog

end Parley

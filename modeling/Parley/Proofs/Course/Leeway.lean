import Parley.Proofs.Course.Deeds

/-!
# Runs with leeway

The budget of a run is in its spots, and nothing but the end of the budget looks at it.  So a run of
a dialog that may take more passes goes through the same spots, each with more passes left
(`Dialog.next?_relaxed`), up to where the budget of the first one is used up (`Spot.UsedUp`).  The
host may be another one as long as it answers the requests of the run alike.
-/

namespace Parley

open Stepping StatefulAttempt

namespace Spot

/-- A pass is to begin, and the budget is used up. -/
def UsedUp (spot : Spot) : Prop := ∃ cursor input, spot = .arriving 0 cursor input

/-- The same spot with more passes left. -/
def extend (extra : ℕ) : Spot → Spot
  | starting task => starting task
  | arriving budget cursor input => arriving (budget + extra) cursor input
  | entering budget lines p => entering (budget + extra) lines p
  | settling budget lines p => settling (budget + extra) lines p
  | announcing budget lines p answer collect key =>
    announcing (budget + extra) lines p answer collect key
  | selecting budget lines p answer collect => selecting (budget + extra) lines p answer collect
  | handling budget lines p callback => handling (budget + extra) lines p callback
  | checking budget lines cursor => checking (budget + extra) lines cursor
  | performing budget cursor line => performing (budget + extra) cursor line
  | dispatching budget cursor action handled => dispatching (budget + extra) cursor action handled
  | closing => closing
  | parting result => parting result
  | returned outcome => returned outcome

variable (extra budget : ℕ)

theorem ofFlow_extend (flow : Flow) :
    ofFlow (budget + extra) flow = ofFlow budget flow >>= fun spot => pure (spot.extend extra) := by
  cases flow with
  | stop | jump => rfl
  | advance => simp only [ofFlow, bind_assoc, pure_bind, extend]

theorem ofSettled_extend (lines : List Line) (cursor : Location) (settled : Option Flow) :
    ofSettled (budget + extra) lines cursor settled =
      ofSettled budget lines cursor settled >>= fun spot => pure (spot.extend extra) := by
  cases settled with
  | none => rfl
  | some flow => exact ofFlow_extend extra budget flow

theorem ofAction_extend (cursor : Location) (action : Option Action) :
    ofAction (budget + extra) cursor action =
      ofAction budget cursor action >>= fun spot => pure (spot.extend extra) := by
  cases action with
  | none => exact ofFlow_extend extra budget .advance
  | some action => rfl

theorem ofDispatched_extend (cursor : Location) (flow : Option Flow)
    (handled : Option (List Line)) :
    ofDispatched (budget + extra) cursor flow handled =
      ofDispatched budget cursor flow handled >>= fun spot => pure (spot.extend extra) := by
  cases handled with
  | none => exact ofFlow_extend extra budget _
  | some lines => exact ofSettled_extend extra budget lines cursor flow

end Spot

namespace Dialog

/-- The same dialog, which may take more passes in a turn. -/
def relaxed (d : Dialog) (extra : ℕ) : Dialog :=
  { d with options := { d.options with maxSteps := d.options.maxSteps + extra } }

variable {d : Dialog} (extra : ℕ)

@[simp] theorem script_relaxed : (d.relaxed extra).script = d.script := rfl

@[simp] theorem seed_relaxed : (d.relaxed extra).options.seed = d.options.seed := rfl

theorem resuming_relaxed (input : Option TurnInput) :
    (d.relaxed extra).resuming input =
      d.resuming input >>= fun next => pure (next.extend extra) := by
  simp only [resuming, bind_assoc]
  refine bind_congr fun s => ?_
  split <;> rfl

/-- **A stride does not look at the budget** unless that is used up. -/
theorem stride_relaxed {spot : Spot} (h : ¬spot.UsedUp) :
    (d.relaxed extra).stride (spot.extend extra) =
      d.stride spot >>= fun next => pure (next.extend extra) := by
  cases spot with
  | starting task =>
    cases task with
    | begin =>
      simp only [Spot.extend, stride, bind_assoc, seed_relaxed]
      refine bind_congr fun _ => ?_
      cases d.options.seed <;> simp only [bind_assoc, pure_bind] <;> rfl
    | resume input => exact resuming_relaxed extra input
    | continueWith activity =>
      simp only [Spot.extend, stride]
      split
      · exact resuming_relaxed extra _
      · rfl
  | arriving budget cursor input =>
    cases budget with
    | zero => exact absurd ⟨cursor, input, rfl⟩ h
    | succ budget =>
      simp only [Spot.extend, Nat.succ_add, stride, bind_assoc, script_relaxed]
      refine bind_congr fun _ => ?_
      cases d.script.thread? cursor.thread with
      | none => rfl
      | some lines =>
        dsimp only
        split <;> rfl
  | entering budget lines p =>
    simp only [Spot.extend, stride, bind_assoc]
    refine bind_congr fun moved => ?_
    split <;> rfl
  | settling budget lines p =>
    simp only [Spot.extend, stride]
    cases p.answer with
    | none => rfl
    | some answer =>
      cases collectBefore lines p.cursor.index with
      | none => rfl
      | some collect =>
        dsimp only
        cases collect.key with
        | none => rfl
        | some key => simp only [bind_assoc, pure_bind]
  | announcing budget lines p answer collect key =>
    simp only [Spot.extend, stride, bind_assoc]
    refine bind_congr fun moved => ?_
    split <;> rfl
  | selecting budget lines p answer collect =>
    simp only [Spot.extend, stride]
    cases collect.select answer with
    | none => rfl
    | some handler =>
      dsimp only
      cases handler.callback with
      | some callback => rfl
      | none => cases handler.action <;> rfl
  | handling budget lines p callback =>
    simp only [Spot.extend, stride, bind_assoc, Spot.ofSettled_extend]
    rfl
  | checking budget lines cursor =>
    simp only [Spot.extend, stride, bind_assoc]
    refine bind_congr fun active => ?_
    split
    · rfl
    · cases lines[cursor.index]? <;> rfl
  | performing budget cursor line =>
    cases line with
    | question message collect =>
      simp only [Spot.extend, stride, bind_assoc, Spot.ofFlow_extend]
      rfl
    | message message action =>
      simp only [Spot.extend, stride, Spot.ofAction_extend]
      split
      · simp only [bind_assoc]
      · split
        · simp only [bind_assoc]; rfl
        · rfl
    | action action => exact Spot.ofAction_extend extra budget cursor (some action)
    | childDialog execute collect =>
      exact Spot.ofAction_extend extra budget cursor (some (.beginDialog execute))
    | next => exact Spot.ofFlow_extend extra budget .advance
  | dispatching budget cursor action handled =>
    simp only [Spot.extend, stride]
    cases action.ending? with
    | some status => simp only [bind_assoc, pure_bind]; rfl
    | none => simp only [bind_assoc, Spot.ofDispatched_extend]; rfl
  | closing =>
    simp only [Spot.extend, stride, bind_assoc]
    refine bind_congr fun _ => bind_congr fun active => ?_
    cases active with
    | none => simp only [bind_assoc, pure_bind]
    | some active => simp only [bind_assoc, pure_bind]; rfl
  | parting result => simp only [Spot.extend, stride, bind_assoc, pure_bind]; rfl
  | returned outcome => rfl

end Dialog

/-! ### Stages -/

section

variable {η η' : Type} (extra : ℕ) (view : η → η')

/-- The same stage with more passes left, on a host that is seen from the one of the stage. -/
def Stage.extend (t : Stage η) : Stage η' := ⟨t.spot.extend extra, t.session, view t.host⟩

variable {d : Dialog} {host : (r : Request) → η → Option (r.Answer × η)}
  {host' : (r : Request) → η' → Option (r.Answer × η')} {t t' : Stage η}

/-- **A stage with more passes left is followed by such a stage**, if the hosts answer alike. -/
theorem Dialog.next?_relaxed (hnext : d.next? host t = some t') (hused : ¬t.spot.UsedUp)
    (halike : ∀ x w, runWith host (d.stride t.spot) t.session t.host = some (x, w) →
      runWith host' (d.stride t.spot) t.session (view t.host) = some (x, view w)) :
    (d.relaxed extra).next? host' (t.extend extra view) = some (t'.extend extra view) := by
  obtain ⟨o, hrun, hspot⟩ := exists_runWith_of_next? hnext
  have hreturned : ∀ outcome, (t.extend extra view).spot ≠ .returned outcome := by
    intro outcome hout
    have hne := spot_ne_returned_of_next? hnext
    rw [Stage.extend] at hout
    cases hcase : t.spot with
    | returned => exact hne _ hcase
    | _ =>
      rw [hcase] at hout
      cases hout
  have hrun' : runWith host' ((d.relaxed extra).stride (t.spot.extend extra)) t.session
      (view t.host) = some ((o.map (Spot.extend extra), t'.session), view t'.host) := by
    rw [stride_relaxed extra hused, runWith_map, halike _ _ hrun, Option.map_some]
  rw [next?_eq hreturned]
  obtain ⟨spot', s', w'⟩ := t'
  obtain rfl := hspot
  show (runWith host' ((d.relaxed extra).stride (t.spot.extend extra)) t.session
    (view t.host)).map Stage.reached = _
  rw [hrun']
  cases o <;> rfl

end

end Parley

import Mathlib.Data.List.Forall2
import Parley.Proofs.Flat.Basic
import Parley.Proofs.Flat.Yielding

/-!
# Runs that are spent

While a session runs inside another one, the engine has stored the outer one as it was when it was
checked out, and will write it back later.  If the outer run has handed the turn over and has
nothing left to do, it is `Spent`: whatever it is answered, it stops at once, and what it will write
back is known already.  `Stack.calm W st` is the stack with all that written back, with nothing
running and nothing pending.

* `Moment.glides_unwind` : when an outcome is handed to runs that are spent, they unwind to the end
  of the call, and the stack is calm then.
* `Moment.glides_unwind_to` : when a result is pending for one of them, they unwind to that one, and
  it is resumed.
-/

namespace Parley

open List (Forall₂)

/-- A session with what is going to be written back for it. -/
def Frame.written (W : List (ℕ × Session)) (f : Frame) : Frame :=
  { f with session := (W.lookup f.id).getD f.session }

/-- A run that is spent: when it is answered it stops at once and writes a session back. -/
structure Suspended.Spent (s : Suspended) (w : ℕ × Session) : Prop where
  id : w.1 = s.id
  stops : ∃ status, Stops s.next status w.2

/-- Two outcomes are the same but for the status. -/
def SameOutcome (o o' : Except DialogError TurnStatus) : Prop :=
  o.map (fun _ => ()) = o'.map fun _ => ()

theorem Suspended.Spent.next {s : Suspended} {w : ℕ × Session} (h : s.Spent w)
    (o : Except DialogError TurnStatus) :
    ∃ o', s.next o = .done (o', w.2) ∧ SameOutcome o' o := by
  obtain ⟨status, hstops⟩ := h.stops
  cases o with
  | error e => exact ⟨_, hstops.error e, rfl⟩
  | ok t => exact ⟨_, hstops.ok t, rfl⟩

namespace Stack

/-- The stack once everything has been written back and nothing runs or is pending. -/
def calm (W : List (ℕ × Session)) (st : Stack) : Stack :=
  { st with frames := st.frames.map (Frame.written W), executing := [], pending := [] }

/-! ### What is written back -/

section

variable {W : List (ℕ × Session)} {st : Stack} {id : ℕ} {session : Session} {f : Frame}

theorem written_nil : f.written [] = f := rfl

theorem written_cons :
    f.written ((id, session) :: W) = if f.id = id then { f with session := session }
      else f.written W := by
  by_cases hid : f.id = id
  · simp [Frame.written, hid]
  · simp [Frame.written, List.lookup_cons, hid, beq_eq_false_iff_ne.2 hid]

theorem written_of_not_mem (h : f.id ∉ W.map Prod.fst) : f.written W = f := by
  have hnone : W.lookup f.id = none := by
    refine List.lookup_eq_none_iff.2 fun w hw => ?_
    simpa using fun he => h (List.mem_map.2 ⟨w, hw, he.symm⟩)
  rw [Frame.written, hnone]
  rfl

theorem calm_nil (hex : st.executing = []) (hp : st.pending = []) : st.calm [] = st := by
  have hid : Frame.written [] = id := funext fun _ => written_nil
  rw [calm, hid, List.map_id, ← hex, ← hp]

theorem frames_calm_nil (hf : st.frames = []) : (st.calm W).frames = [] := by
  rw [calm, hf, List.map_nil]

theorem frames_calm_cons {rest : List Frame} (hf : st.frames = f :: rest) :
    (st.calm W).frames = f.written W :: rest.map (Frame.written W) := by
  rw [calm, hf, List.map_cons]

theorem top?_calm : (st.calm W).top? = st.top?.map (Frame.written W) := List.head?_map

theorem active?_calm : (st.calm W).active? = st.active? := by
  rw [active?, top?_calm, Option.map_map]
  rfl

theorem depth_calm : (st.calm W).depth = st.depth := List.length_map _

/-- A session may be written back after what else is to be written back. -/
theorem store_calm : (st.calm W).store id session = st.calm ((id, session) :: W) := by
  have hframes : ((st.frames.map (Frame.written W)).map fun f =>
      if f.id = id then { f with session := session } else f) =
        st.frames.map (Frame.written ((id, session) :: W)) := by
    rw [List.map_map]
    refine List.map_congr_left fun f _ => ?_
    rw [written_cons]
    rfl
  rw [store, calm, hframes]
  rfl

theorem calm_store (h : id ∉ W.map Prod.fst) :
    (st.store id session).calm W = st.calm ((id, session) :: W) := by
  have hframes : ((st.frames.map fun f =>
      if f.id = id then { f with session := session } else f).map (Frame.written W)) =
        st.frames.map (Frame.written ((id, session) :: W)) := by
    rw [List.map_map]
    refine List.map_congr_left fun f _ => ?_
    rw [written_cons, Function.comp_apply]
    by_cases hid : f.id = id
    · rw [if_pos hid, if_pos hid]
      exact written_of_not_mem (hid ▸ h)
    · rw [if_neg hid, if_neg hid]
  rw [calm, calm, store, hframes]

theorem calm_push (h : st.nextFrame ∉ W.map Prod.fst) (dialog : String) (options : LaunchOptions) :
    (st.push dialog options).calm W = (st.calm W).push dialog options := by
  have hnew : (⟨st.nextFrame, dialog, .launch options⟩ : Frame).written W = _ :=
    written_of_not_mem h
  rw [calm, push, push, List.map_cons, hnew]
  rfl

theorem top?_store : (st.store id session).top?.map Frame.id = st.top?.map Frame.id := by
  cases hf : st.frames with
  | nil => simp [top?, store, hf]
  | cons f rest =>
    simp only [top?, store, hf, List.map_cons, List.head?_cons, Option.map_some]
    split <;> rfl

theorem undefer_eq_self (hp : st.pending = []) : st.undefer id = st := by
  rw [undefer, hp, List.filter_nil, ← hp]

theorem undefer_defer (hp : st.pending = []) (p : ℕ) (input : Option TurnInput) :
    (st.defer p input).undefer p = st := by
  have hpending : ((p, input) :: st.pending.filter (·.1 ≠ p)).filter (·.1 ≠ p) = st.pending := by
    simp [hp]
  rw [undefer, defer, hpending]

theorem lookup_defer (hp : st.pending = []) (p : ℕ) (input : Option TurnInput) (q : ℕ) :
    (st.defer p input).pending.lookup q = if q = p then some input else none := by
  by_cases hid : q = p
  · simp [defer, hid]
  · simp [defer, hp, List.lookup_cons, hid, beq_eq_false_iff_ne.2 hid]

end

/-! ### Runs that wait -/

/-- The runs that wait on a stack are spent, and nothing is pending for them. -/
structure Waiting (st : Stack) (K : List Suspended) (W : List (ℕ × Session)) : Prop where
  spent : Forall₂ Suspended.Spent K W
  executing : st.executing = K.map Suspended.id
  nodup : st.executing.Nodup
  below : ∀ id ∈ st.executing, id < st.nextFrame
  pending : st.pending = []

namespace Waiting

variable {st : Stack} {K : List Suspended} {W : List (ℕ × Session)} {s : Suspended}
  {w : ℕ × Session}

theorem ids_eq (h : Forall₂ Suspended.Spent K W) : W.map Prod.fst = K.map Suspended.id := by
  induction h with
  | nil => rfl
  | cons hs _ ih => rw [List.map_cons, List.map_cons, hs.id, ih]

theorem keys (h : st.Waiting K W) : W.map Prod.fst = st.executing := by
  rw [h.executing, ids_eq h.spent]

theorem congr {st' : Stack} (h : st.Waiting K W) (hex : st'.executing = st.executing)
    (hnext : st.nextFrame ≤ st'.nextFrame) (hp : st'.pending = st.pending) : st'.Waiting K W := by
  refine ⟨h.spent, hex.trans h.executing, hex ▸ h.nodup, fun id hid => ?_, hp.trans h.pending⟩
  exact Nat.lt_of_lt_of_le (h.below id (hex ▸ hid)) hnext

theorem cons {st' : Stack} (h : st.Waiting K W) (hs : s.Spent w) (hnot : s.id ∉ st.executing)
    (hbelow : s.id < st.nextFrame) (hex : st'.executing = s.id :: st.executing)
    (hnext : st'.nextFrame = st.nextFrame) (hp : st'.pending = st.pending) :
    st'.Waiting (s :: K) (w :: W) := by
  refine ⟨.cons hs h.spent, ?_, ?_, fun id hid => ?_, hp.trans h.pending⟩
  · rw [hex, h.executing, List.map_cons]
  · rw [hex]
    exact List.nodup_cons.2 ⟨hnot, h.nodup⟩
  · rw [hnext]
    rcases List.mem_cons.1 (hex ▸ hid) with rfl | hid
    · exact hbelow
    · exact h.below id hid

theorem tail (h : st.Waiting (s :: K) (w :: W)) :
    (st.leave.store s.id w.2).Waiting K W ∧
      (st.leave.store s.id w.2).calm W = st.calm (w :: W) := by
  obtain ⟨hs, hspent⟩ := List.forall₂_cons.1 h.spent
  obtain ⟨id, session⟩ := w
  obtain rfl : id = s.id := hs.id
  have hex : st.executing = s.id :: K.map Suspended.id := h.executing
  have hnodup := h.nodup
  rw [hex] at hnodup
  obtain ⟨hnot, hnodup⟩ := List.nodup_cons.1 hnodup
  have hleave : st.leave.executing = K.map Suspended.id := by rw [leave, hex, List.tail_cons]
  refine ⟨⟨hspent, hleave, hleave ▸ hnodup, fun i hi => ?_, h.pending⟩, ?_⟩
  · exact h.below i (hex ▸ List.mem_cons_of_mem s.id (hleave ▸ hi))
  · have hstore : (st.leave.store s.id session).calm W = st.leave.calm ((s.id, session) :: W) :=
      calm_store (ids_eq hspent ▸ hnot)
    exact hstore

end Waiting

end Stack

namespace Moment

/-- One moment comes after another, and no session is about to run before that. -/
abbrev Glides (m m' : Moment) : Prop := Stepping.Glides next? entered? m m'

open Stack Stepping

variable {st : Stack} {K : List Suspended} {W : List (ℕ × Session)} {s : Suspended}
  {w : ℕ × Session}

/-! ### Unwinding -/

/-- A run for which nothing is pending is over. -/
theorem glides_done (hp : st.pending = []) (id : ℕ) (taken : Session)
    (o : Except DialogError TurnStatus) (session : Session) :
    Glides ⟨st, .running id taken (.done (o, session)), K⟩
      ⟨st.leave.store id session, .answering o, K⟩ := by
  have hp' : (st.leave.store id session).pending = [] := hp
  refine .head rfl (show next? _ = some (finished _ id o session) from rfl) ?_
  cases o with
  | error e =>
    simp only [finished, undefer_eq_self hp']
    exact .refl _
  | ok status =>
    have hlookup : (st.leave.store id session).pending.lookup id = none := by rw [hp']; rfl
    exact .head rfl (next?_stopped_of_lookup_eq_none hlookup) (.refl _)

/-- **Runs that are spent unwind** to the end of the call, and write their sessions back. -/
theorem glides_unwind (h : st.Waiting K W) (o : Except DialogError TurnStatus) :
    ∃ o', SameOutcome o' o ∧ Glides ⟨st, .answering o, K⟩ (arrived [] (o', st.calm W)) := by
  induction K generalizing st W o with
  | nil =>
    obtain rfl := List.forall₂_nil_left_iff.1 h.spent
    rw [calm_nil h.executing h.pending]
    exact ⟨o, rfl, .refl _⟩
  | cons s K ih =>
    obtain ⟨w, W, hs, -, rfl⟩ := List.forall₂_cons_left_iff.1 h.spent
    obtain ⟨o₁, hnext, hsame⟩ := hs.next o
    obtain ⟨htail, hcalm⟩ := h.tail
    obtain ⟨o₂, hsame', hglide⟩ := ih htail o₁
    refine ⟨o₂, hsame'.trans hsame, ?_⟩
    -- writing back the session of `s` first or last comes to the same
    rw [← hcalm]
    refine .head rfl (next?_arrived_cons s K (o, st)) ?_
    rw [hnext]
    exact (glides_done h.pending _ _ _ _).trans hglide

/-- **Runs that are spent unwind to the session for which a result is pending.**  That session is
on top, and it is resumed as soon as its own run is over. -/
theorem glides_unwind_to {p : ℕ} (h : st.Waiting K W) (hmem : p ∈ st.executing)
    (htop : st.top?.map Frame.id = some p) (input : Option TurnInput) (t : TurnStatus) :
    ∃ st' K' W', st'.Waiting K' W' ∧ st'.calm W' = st.calm W ∧
      Glides ⟨st.defer p input, .answering (.ok t), K⟩ ⟨st', .entering p (·.resume input), K'⟩ := by
  induction K generalizing st W t with
  | nil =>
    rw [h.executing] at hmem
    cases hmem
  | cons s K ih =>
    obtain ⟨w, W, hs, -, rfl⟩ := List.forall₂_cons_left_iff.1 h.spent
    obtain ⟨status, hstops⟩ := hs.stops
    obtain ⟨htail, hcalm⟩ := h.tail
    have hstep : Glides ⟨st.defer p input, .answering (.ok t), s :: K⟩
        ⟨(st.leave.store s.id w.2).defer p input, .stopped s.id status, K⟩ := by
      refine .head rfl (next?_arrived_cons s K (.ok t, _)) ?_
      rw [hstops.ok]
      exact .head rfl rfl (.refl _)
    by_cases hid : s.id = p
    · -- the run that is over is the one of the session with a result pending
      refine ⟨st.leave.store s.id w.2, K, W, htail, hcalm, hstep.trans ?_⟩
      subst hid
      have hlookup := lookup_defer htail.pending s.id input s.id
      rw [if_pos rfl] at hlookup
      have hundefer := undefer_defer htail.pending s.id input
      refine .head rfl (next?_stopped_of_top hlookup ?_) ?_
      · rw [hundefer, top?_store]
        exact htop
      · rw [hundefer]
        exact .refl _
    · -- nothing is pending for the session of the run that is over, and the next run is answered
      have hlookup := lookup_defer htail.pending p input s.id
      rw [if_neg hid] at hlookup
      have hmem' : p ∈ (st.leave.store s.id w.2).executing := by
        rw [htail.executing]
        rw [h.executing] at hmem
        exact (List.mem_cons.1 hmem).resolve_left (Ne.symm hid)
      obtain ⟨st', K', W', h', hcalm', hglide⟩ :=
        ih htail hmem' (top?_store.trans htop) status
      exact ⟨st', K', W', h', hcalm'.trans hcalm,
        hstep.trans (.head rfl (next?_stopped_of_lookup_eq_none hlookup) hglide)⟩

end Moment

end Parley

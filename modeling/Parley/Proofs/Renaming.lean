import Mathlib.Data.List.Forall2
import Mathlib.Logic.Relator
import Parley.Proofs.Moment.Faithful

/-!
# Stacks that differ in the numbers of their sessions

The numbers tell sessions apart and mean nothing else.  `Stack.Alike E S R` relates two stacks that
hold the same sessions of the same dialogs under numbers that `E` pairs with each other, and that
have sent and recorded the same since they were `S` and `R`.  Nothing that a dialog or a callback is
told depends on the numbers, so alike moments are followed by alike moments
(`Moment.Alike.next?`), and alike stacks return from a call alike (`Stack.Alike.returns`).

`E` pairs every number with one other at most, which `Relator.BiUnique` says.
-/

namespace Parley

open List (Forall₂)

variable {E : ℕ → ℕ → Prop}

theorem eq_iff_eq_of_biUnique (hE : Relator.BiUnique E) {a a' b b' : ℕ} (h : E a b)
    (h' : E a' b') : a = a' ↔ b = b' :=
  ⟨fun e => hE.2 h (e ▸ h'), fun e => hE.1 h (e ▸ h')⟩

/-- The same session under another number. -/
structure Frame.Alike (E : ℕ → ℕ → Prop) (f g : Frame) : Prop where
  id : E f.id g.id
  dialog : f.dialog = g.dialog
  session : f.session = g.session

/-- The same input, pending for a session under another number. -/
structure PendingAlike (E : ℕ → ℕ → Prop) (p q : ℕ × Option TurnInput) : Prop where
  id : E p.1 q.1
  input : p.2 = q.2

/-! ### Lists of sessions and of what is pending -/

section

variable {fs gs : List Frame} {ps qs : List (ℕ × Option TurnInput)} {is js : List ℕ} {a b : ℕ}

theorem head?_alike (h : Forall₂ (Frame.Alike E) fs gs) :
    Option.Rel (Frame.Alike E) fs.head? gs.head? := by
  cases h with
  | nil => exact .none
  | cons hf _ => exact .some hf

theorem stored_eq_of_alike (h : Forall₂ (Frame.Alike E) fs gs) :
    fs.map (fun f => (⟨f.dialog, f.session⟩ : StoredFrame)) =
      gs.map fun g => ⟨g.dialog, g.session⟩ := by
  induction h with
  | nil => rfl
  | cons hf _ ih => rw [List.map_cons, List.map_cons, ih, hf.dialog, hf.session]

theorem find?_alike (hE : Relator.BiUnique E) (h : Forall₂ (Frame.Alike E) fs gs) (hab : E a b) :
    Option.Rel (Frame.Alike E) (fs.find? (·.id = a)) (gs.find? (·.id = b)) := by
  induction h with
  | nil => exact .none
  | @cons f g fs gs hf _ ih =>
    -- both find their session here, or both go on
    have hid := eq_iff_eq_of_biUnique hE hf.id hab
    by_cases ha : f.id = a
    · simp only [List.find?_cons, ha, hid.1 ha, decide_true]
      exact .some hf
    · simp only [List.find?_cons, ha, mt hid.2 ha, decide_false]
      exact ih

theorem map_store_alike (hE : Relator.BiUnique E) (h : Forall₂ (Frame.Alike E) fs gs)
    (hab : E a b) (session : Session) :
    Forall₂ (Frame.Alike E) (fs.map fun f => if f.id = a then { f with session := session } else f)
      (gs.map fun g => if g.id = b then { g with session := session } else g) := by
  induction h with
  | nil => exact .nil
  | @cons f g fs gs hf _ ih =>
    refine .cons ?_ ih
    have hid := eq_iff_eq_of_biUnique hE hf.id hab
    by_cases ha : f.id = a
    · simp only [if_pos ha, if_pos (hid.1 ha)]
      exact ⟨hf.id, hf.dialog, rfl⟩
    · simp only [if_neg ha, if_neg (mt hid.2 ha)]
      exact hf

theorem lookup_alike (hE : Relator.BiUnique E) (h : Forall₂ (PendingAlike E) ps qs)
    (hab : E a b) : ps.lookup a = qs.lookup b := by
  induction h with
  | nil => rfl
  | @cons p q ps qs hp _ ih =>
    obtain ⟨i, input⟩ := p
    obtain ⟨j, input'⟩ := q
    have hid := eq_iff_eq_of_biUnique hE hab hp.id
    by_cases ha : a = i
    · simp only [List.lookup_cons, beq_iff_eq.2 ha, beq_iff_eq.2 (hid.1 ha)]
      exact congrArg some hp.input
    · simp only [List.lookup_cons, beq_eq_false_iff_ne.2 ha, beq_eq_false_iff_ne.2 (mt hid.2 ha)]
      exact ih

theorem filter_alike (hE : Relator.BiUnique E) (h : Forall₂ (PendingAlike E) ps qs)
    (hab : E a b) :
    Forall₂ (PendingAlike E) (ps.filter (·.1 ≠ a)) (qs.filter (·.1 ≠ b)) := by
  induction h with
  | nil => exact .nil
  | @cons p q ps qs hp _ ih =>
    have hid := eq_iff_eq_of_biUnique hE hp.id hab
    by_cases ha : p.1 = a
    · simpa [List.filter_cons, ha, hid.1 ha] using ih
    · simpa [List.filter_cons, ha, mt hid.2 ha] using ⟨hp, by simpa using ih⟩

theorem mem_iff_of_alike (hE : Relator.BiUnique E) (h : Forall₂ E is js) (hab : E a b) :
    a ∈ is ↔ b ∈ js := by
  induction h with
  | nil => simp
  | cons hi _ ih => rw [List.mem_cons, List.mem_cons, ih, eq_iff_eq_of_biUnique hE hab hi]

theorem tail_alike (h : Forall₂ E is js) : Forall₂ E is.tail js.tail := by
  cases h with
  | nil => exact .nil
  | cons _ hrest => exact hrest

end

namespace Stack

/-- Two stacks that differ in the numbers of their sessions, and have sent and recorded the same
since they were `S` and `R`. -/
structure Alike (E : ℕ → ℕ → Prop) (S R st st' : Stack) : Prop where
  dialogs : st.dialogs = st'.dialogs
  frames : Forall₂ (Frame.Alike E) st.frames st'.frames
  /-- Numbers that are still to come are paired too. -/
  next : ∀ k, E (st.nextFrame + k) (st'.nextFrame + k)
  executing : Forall₂ E st.executing st'.executing
  pending : Forall₂ (PendingAlike E) st.pending st'.pending
  sent : ∃ x, st.outbox = S.outbox ++ x ∧ st'.outbox = R.outbox ++ x
  recorded : ∃ x, st.results = S.results ++ x ∧ st'.results = R.results ++ x
  clock : ∀ k, st.clock (st.ticks + k) = st'.clock (st'.ticks + k)

namespace Alike

variable {S R st st' : Stack}

/-! ### Views -/

theorem top? (h : Alike E S R st st') : Option.Rel (Frame.Alike E) st.top? st'.top? :=
  head?_alike h.frames

theorem active? (h : Alike E S R st st') : st.active? = st'.active? := by
  have htop := h.top?
  unfold Stack.active?
  generalize st.top? = x at htop ⊢
  generalize st'.top? = y at htop ⊢
  cases htop with
  | none => rfl
  | some hf => exact congrArg some hf.dialog

theorem status (h : Alike E S R st st') : st.status = st'.status := by
  have hlength := h.frames.length_eq
  simp only [Stack.status, List.isEmpty_iff_length_eq_zero, hlength]

theorem snapshot (h : Alike E S R st st') : st.snapshot = st'.snapshot := by
  unfold Stack.snapshot
  rw [List.map_reverse, List.map_reverse, stored_eq_of_alike h.frames]

/-! ### Changes -/

theorem note (h : Alike E S R st st') (e e' : Event) : Alike E S R (st.note e) (st'.note e') :=
  ⟨h.dialogs, h.frames, h.next, h.executing, h.pending, h.sent, h.recorded, h.clock⟩

theorem push (h : Alike E S R st st') (dialog : String) (options : LaunchOptions) :
    Alike E S R (st.push dialog options) (st'.push dialog options) := by
  refine ⟨h.dialogs, .cons ⟨h.next 0, rfl, rfl⟩ h.frames, fun k => ?_, h.executing, h.pending,
    h.sent, h.recorded, h.clock⟩
  have := h.next (1 + k)
  rwa [← Nat.add_assoc, ← Nat.add_assoc] at this

theorem send (h : Alike E S R st st') (message : OutgoingMessage) :
    Alike E S R { st with outbox := st.outbox.push message }
      { st' with outbox := st'.outbox.push message } := by
  obtain ⟨x, hx, hx'⟩ := h.sent
  refine ⟨h.dialogs, h.frames, h.next, h.executing, h.pending, ⟨x.push message, ?_, ?_⟩,
    h.recorded, h.clock⟩
  · simp only [hx, Array.append_push]
  · simp only [hx', Array.append_push]

theorem tick (h : Alike E S R st st') :
    Alike E S R { st with ticks := st.ticks + 1 } { st' with ticks := st'.ticks + 1 } := by
  refine ⟨h.dialogs, h.frames, h.next, h.executing, h.pending, h.sent, h.recorded, fun k => ?_⟩
  have := h.clock (1 + k)
  rwa [← Nat.add_assoc, ← Nat.add_assoc] at this

theorem enter (h : Alike E S R st st') {a b : ℕ} (hab : E a b) :
    Alike E S R (st.enter a) (st'.enter b) :=
  ⟨h.dialogs, h.frames, h.next, .cons hab h.executing, h.pending, h.sent, h.recorded, h.clock⟩

theorem leave (h : Alike E S R st st') : Alike E S R st.leave st'.leave := by
  exact ⟨h.dialogs, h.frames, h.next, tail_alike h.executing, h.pending, h.sent, h.recorded,
    h.clock⟩

theorem store (hE : Relator.BiUnique E) (h : Alike E S R st st') {a b : ℕ} (hab : E a b)
    (session : Session) : Alike E S R (st.store a session) (st'.store b session) :=
  ⟨h.dialogs, map_store_alike hE h.frames hab session, h.next, h.executing, h.pending, h.sent,
    h.recorded, h.clock⟩

theorem undefer (hE : Relator.BiUnique E) (h : Alike E S R st st') {a b : ℕ} (hab : E a b) :
    Alike E S R (st.undefer a) (st'.undefer b) :=
  ⟨h.dialogs, h.frames, h.next, h.executing, filter_alike hE h.pending hab, h.sent, h.recorded,
    h.clock⟩

theorem defer (hE : Relator.BiUnique E) (h : Alike E S R st st') {a b : ℕ} (hab : E a b)
    (input : Option TurnInput) : Alike E S R (st.defer a input) (st'.defer b input) :=
  ⟨h.dialogs, h.frames, h.next, h.executing,
    .cons ⟨hab, rfl⟩ (filter_alike hE h.pending hab), h.sent, h.recorded, h.clock⟩

theorem cancelAll (h : Alike E S R st st') : Alike E S R st.cancelAll st'.cancelAll :=
  ⟨h.dialogs, .nil, h.next, h.executing, .nil, h.sent, h.recorded, h.clock⟩

theorem drop (h : Alike E S R st st') {f g : Frame} (hf : Frame.Alike E f g)
    {rest rest' : List Frame} (hrest : Forall₂ (Frame.Alike E) rest rest')
    (result : Option DialogResult) :
    Alike E S R (st.drop f rest result) (st'.drop g rest' result) := by
  refine ⟨h.dialogs, hrest, h.next, h.executing, h.pending, h.sent, ?_, h.clock⟩
  unfold Stack.drop
  cases result with
  | none => exact h.recorded
  | some r =>
    obtain ⟨x, hx, hx'⟩ := h.recorded
    refine ⟨x.push ⟨f.dialog, r⟩, ?_, ?_⟩
    · simp only [hx, Array.append_push]
    · simp only [hx', hf.dialog, Array.append_push]

end Alike

end Stack

/-! ### Moments -/

/-- The same run, waiting under another number. -/
structure Suspended.Alike (E : ℕ → ℕ → Prop) (s s' : Suspended) : Prop where
  id : E s.id s'.id
  taken : s.taken = s'.taken
  next : s.next = s'.next

/-- The same goes on under another number. -/
inductive Phase.Alike (E : ℕ → ℕ → Prop) : Phase → Phase → Prop where
  | entering {a b : ℕ} (h : E a b) (task : Dialog → SessionM TurnStatus) :
      Alike E (.entering a task) (.entering b task)
  | running {a b : ℕ} (h : E a b) (taken : Session) (rest : Remainder) :
      Alike E (.running a taken rest) (.running b taken rest)
  | stopped {a b : ℕ} (h : E a b) (status : TurnStatus) :
      Alike E (.stopped a status) (.stopped b status)
  | answering (outcome : Except DialogError TurnStatus) :
      Alike E (.answering outcome) (.answering outcome)

/-- Two moments that differ in the numbers of the sessions. -/
structure Moment.Alike (E : ℕ → ℕ → Prop) (S R : Stack) (m m' : Moment) : Prop where
  stack : Stack.Alike E S R m.stack m'.stack
  phase : m.phase.Alike E m'.phase
  suspended : Forall₂ (Suspended.Alike E) m.suspended m'.suspended

namespace Stack

/-- What requests for runs leave behind, alike but for the numbers. -/
structure OpenedAlike (E : ℕ → ℕ → Prop) (S R : Stack) (o o' : Stack × Phase) : Prop where
  stack : Alike E S R o.1 o'.1
  phase : o.2.Alike E o'.2

namespace Alike

variable {S R st st' : Stack}

theorem beginning (h : Alike E S R st st') (dialog : String) (options : LaunchOptions) :
    OpenedAlike E S R (st.beginning dialog options) (st'.beginning dialog options) := by
  have hfind : st'.dialogs.find dialog = st.dialogs.find dialog := by rw [h.dialogs]
  unfold Stack.beginning
  rw [hfind]
  cases st.dialogs.find dialog with
  | error e => exact ⟨h, .answering _⟩
  | ok d => exact ⟨(h.note _ _).push dialog options, .entering (h.next 0) _⟩

theorem below (h : Alike E S R st st') {rest rest' : List Frame}
    (hrest : Forall₂ (Frame.Alike E) rest rest') :
    Alike E S R { st with frames := rest } { st' with frames := rest' } :=
  ⟨h.dialogs, hrest, h.next, h.executing, h.pending, h.sent, h.recorded, h.clock⟩

theorem replacing (h : Alike E S R st st') (dialog : String) (options : LaunchOptions) :
    OpenedAlike E S R (st.replacing dialog options) (st'.replacing dialog options) := by
  have hfind : st'.dialogs.find dialog = st.dialogs.find dialog := by rw [h.dialogs]
  unfold Stack.replacing
  rw [hfind]
  cases st.dialogs.find dialog with
  | error e => exact ⟨h, .answering _⟩
  | ok d =>
    have hframes := h.frames
    generalize hfs : st.frames = fs at hframes
    generalize hgs : st'.frames = gs at hframes
    cases hframes with
    | nil => exact h.beginning dialog options
    | cons hf hrest => exact ((h.below hrest).note _ _).beginning dialog options

theorem finishing (hE : Relator.BiUnique E) (h : Alike E S R st st')
    (result : Option DialogResult) :
    OpenedAlike E S R (st.finishing result) (st'.finishing result) := by
  unfold Stack.finishing
  have hframes := h.frames
  generalize hfs : st.frames = fs at hframes
  generalize hgs : st'.frames = gs at hframes
  cases hframes with
  | nil => exact ⟨h, .answering _⟩
  | cons hf hrest =>
    have hdrop := h.drop hf hrest result
    cases hrest with
    | nil => exact ⟨hdrop, .answering _⟩
    | @cons parent parent' _ _ hparent _ =>
      have hmem := mem_iff_of_alike hE h.executing hparent.id
      by_cases hp : parent.id ∈ st.executing
      · simp only [if_pos hp, if_pos (hmem.1 hp)]
        exact ⟨hdrop.defer hE hparent.id _, .answering _⟩
      · simp only [if_neg hp, if_neg (mt hmem.2 hp)]
        exact ⟨hdrop, .entering hparent.id _⟩

end Alike

end Stack

namespace Moment

namespace Alike

variable {S R : Stack} {m m' : Moment}

/-- Alike runs make alike requests, for these do not depend on the numbers, and nor do the answers
that they get. -/
theorem asked (hE : Relator.BiUnique E) (h : Alike E S R m m') {a b : ℕ} (hab : E a b)
    (taken : Session) (r : Request) (next : r.Answer → Remainder) :
    Alike E S R (m.asked a taken r next) (m'.asked b taken r next) := by
  cases r with
  | send message => exact ⟨h.stack.send message, .running hab _ _, h.suspended⟩
  | active =>
    refine ⟨h.stack, ?_, h.suspended⟩
    simp only [Moment.asked, h.stack.active?]
    exact .running hab _ _
  | note event => exact ⟨h.stack.note _ _, .running hab _ _, h.suspended⟩
  | seed =>
    refine ⟨h.stack.tick, ?_, h.suspended⟩
    have hclock : m.stack.clock m.stack.ticks = m'.stack.clock m'.stack.ticks := h.stack.clock 0
    simp only [Moment.asked, hclock]
    exact .running hab _ _
  | cancelAll => exact ⟨h.stack.cancelAll, .running hab _ _, h.suspended⟩
  | begin dialog options =>
    have := h.stack.beginning dialog options
    exact ⟨this.stack, this.phase, .cons ⟨hab, rfl, rfl⟩ h.suspended⟩
  | replace dialog options =>
    have := h.stack.replacing dialog options
    exact ⟨this.stack, this.phase, .cons ⟨hab, rfl, rfl⟩ h.suspended⟩
  | finish result =>
    have := h.stack.finishing hE result
    exact ⟨this.stack, this.phase, .cons ⟨hab, rfl, rfl⟩ h.suspended⟩

theorem finished (hE : Relator.BiUnique E) (h : Alike E S R m m') {a b : ℕ} (hab : E a b)
    (outcome : Except DialogError TurnStatus) (session : Session) :
    Alike E S R (m.finished a outcome session) (m'.finished b outcome session) := by
  have hstore := h.stack.leave.store hE hab session
  cases outcome with
  | ok status => exact ⟨hstore, .stopped hab status, h.suspended⟩
  | error e => exact ⟨hstore.undefer hE hab, .answering _, h.suspended⟩

/-- **Alike moments are followed by alike moments**, or both by none. -/
theorem next? (hE : Relator.BiUnique E) (h : Alike E S R m m') :
    Option.Rel (Alike E S R) m.next? m'.next? := by
  obtain ⟨st, phase, K⟩ := m
  obtain ⟨st', phase', K'⟩ := m'
  have hst : Stack.Alike E S R st st' := h.stack
  have hphase : phase.Alike E phase' := h.phase
  have hK : Forall₂ (Suspended.Alike E) K K' := h.suspended
  cases hphase with
  | @entering a b hab task =>
    have hframe : Option.Rel (Frame.Alike E) (st.frame? a) (st'.frame? b) :=
      find?_alike hE hst.frames hab
    generalize hf : st.frame? a = x at hframe
    generalize hg : st'.frame? b = y at hframe
    cases hframe with
    | none =>
      rw [next?_entering_of_frame?_eq_none hf, next?_entering_of_frame?_eq_none hg]
      exact .some ⟨hst, .stopped hab _, hK⟩
    | @some f g hfg =>
      have hfind : st'.dialogs.find g.dialog = st.dialogs.find f.dialog := by
        rw [hst.dialogs, hfg.dialog]
      cases hd : st.dialogs.find f.dialog with
      | error e =>
        rw [next?_entering_of_find_eq_error hf hd,
          next?_entering_of_find_eq_error hg (hfind.trans hd)]
        exact .some ⟨hst, .answering _, hK⟩
      | ok d =>
        -- the runs are equal, for they see the session and not its number
        rw [next?_entering hf hd, next?_entering hg (hfind.trans hd), hfg.session]
        exact .some ⟨hst.enter hab, .running hab _ _, hK⟩
  | running hab taken rest =>
    cases rest with
    | done value => exact .some (h.finished hE hab value.1 value.2)
    | ask r next => exact .some (h.asked hE hab taken r next)
    | abort => exact .none
  | @stopped a b hab status =>
    -- the same is pending for both, and both are on top or neither is
    have hlookup := lookup_alike hE hst.pending hab
    cases hp : st.pending.lookup a with
    | none =>
      rw [next?_stopped_of_lookup_eq_none hp, next?_stopped_of_lookup_eq_none (hlookup ▸ hp)]
      exact .some ⟨hst, .answering _, hK⟩
    | some input =>
      have hundefer := hst.undefer hE hab
      have htop : (st.undefer a).top?.map Frame.id = some a ↔
          (st'.undefer b).top?.map Frame.id = some b := by
        have hrel := hundefer.top?
        generalize (st.undefer a).top? = x, (st'.undefer b).top? = y at hrel
        cases hrel with
        | none => simp
        | some hfg => simpa using eq_iff_eq_of_biUnique hE hfg.id hab
      by_cases ht : (st.undefer a).top?.map Frame.id = some a
      · rw [next?_stopped_of_top hp ht, next?_stopped_of_top (hlookup ▸ hp) (htop.1 ht)]
        exact .some ⟨hundefer, .entering hab _, hK⟩
      · rw [next?_stopped_of_not_top hp ht,
          next?_stopped_of_not_top (hlookup ▸ hp) (mt htop.2 ht)]
        exact .some ⟨hundefer.note _ _, .answering _, hK⟩
  | answering outcome =>
    cases hK with
    | nil => exact .none
    | @cons s s' _ _ hs hrest =>
      obtain ⟨id, taken, next⟩ := s
      obtain ⟨id', taken', next'⟩ := s'
      obtain rfl : taken = taken' := hs.taken
      obtain rfl : next = next' := hs.next
      exact .some ⟨hst, .running hs.id _ _, hrest⟩

end Alike

end Moment

/-! ### Calls -/

namespace Stack.Alike

variable {S R st st' : Stack}

theorem told (h : Alike E S R st st') (c : Call) (outcome : Except DialogError TurnStatus) :
    c.told outcome st = c.told outcome st' := by
  cases c with
  | start | continueTurn => simp only [Call.told, h.status]
  | begin | replace | finish | cancelAll | send => rfl

theorem opening? (hE : Relator.BiUnique E) (h : Alike E S R st st') (c : Call) :
    Option.Rel (Moment.Alike E S R) (c.opening? st) (c.opening? st') := by
  have hopened {o o' : Stack × Phase} (ho : OpenedAlike E S R o o') :
      Option.Rel (Moment.Alike E S R) (some (Call.atOpening o)) (some (Call.atOpening o')) :=
    .some ⟨ho.stack, ho.phase, .nil⟩
  cases c with
  | start dialog options | begin dialog options => exact hopened (h.beginning dialog options)
  | replace dialog options => exact hopened (h.replacing dialog options)
  | finish result => exact hopened (h.finishing hE result)
  | continueTurn activity =>
    have htop := h.top?
    unfold Call.opening?
    generalize st.top? = x, st'.top? = y at htop
    cases htop with
    | none => exact .none
    | some hf => exact .some ⟨h, .entering hf.id _, .nil⟩
  | cancelAll | send => exact .none

/-- **Alike stacks return alike from a call.** -/
theorem returns (hE : Relator.BiUnique E) (h : Alike E S R st st') {c : Call} {st₁ : Stack}
    {outcome : Except DialogError (Option TurnStatus)} (hc : Returns c st outcome st₁) :
    ∃ st₁', Returns c st' outcome st₁' ∧ Alike E S R st₁ st₁' := by
  have hopening := h.opening? hE c
  generalize hm : c.opening? st = x, hm' : c.opening? st' = y at hopening
  cases hopening with
  | none =>
    -- calls that run no session
    rcases (returns_of_opening?_eq_none hm).1 hc with
      ⟨activity, rfl, rfl, rfl⟩ | ⟨rfl, rfl, rfl⟩ | ⟨message, rfl, rfl, rfl⟩
    · exact ⟨st', (returns_of_opening?_eq_none hm').2 (.inl ⟨activity, rfl, rfl, rfl⟩), h⟩
    · exact ⟨_, (returns_of_opening?_eq_none hm').2 (.inr (.inl ⟨rfl, rfl, rfl⟩)), h.cancelAll⟩
    · exact ⟨_, (returns_of_opening?_eq_none hm').2 (.inr (.inr ⟨message, rfl, rfl, rfl⟩)),
        h.send message⟩
  | some hmoment =>
    obtain ⟨o, hends, htold⟩ := (returns_iff_ends hm).1 hc
    obtain ⟨⟨st₁', phase, K⟩, hends', hstack, hphase, hK⟩ :=
      hends.exists_of_rel (fun _ _ h => h.next? hE) hmoment
    cases hphase
    cases hK
    exact ⟨st₁', (returns_iff_ends hm').2 ⟨o, hends', (hstack.told c o).symm.trans htold⟩, hstack⟩

end Stack.Alike

end Parley

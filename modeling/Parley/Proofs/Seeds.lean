import Parley.Proofs.Persistence

/-!
# The numbers that random choice starts from

A stack gives these numbers out one after the other, and keeps count of them (`Stack.ticks`).  A
call sees of the clock no more than the numbers it is given: it returns in the same way on another
clock that gives the same ones (`Stack.Returns.reclocked`).  So how many numbers a call is given
does not depend on the numbers of the sessions either (`Stack.Resembles.returns`).
-/

namespace Parley

namespace Stack

/-- The stack with another clock. -/
def reclocked (st : Stack) (clock : ℕ → UInt32) : Stack := { st with clock := clock }

/-- A clock gives the same numbers as a stack does up to a later one. -/
def GivesAlike (clock : ℕ → UInt32) (st st' : Stack) : Prop :=
  ∀ n, st.ticks ≤ n → n < st'.ticks → clock n = st.clock n

/-- Later on, a stack has the same clock and has not given out fewer numbers. -/
structure Ticks (st st' : Stack) : Prop where
  le : st.ticks ≤ st'.ticks
  clock : st'.clock = st.clock

theorem Ticks.refl (st : Stack) : st.Ticks st := ⟨Nat.le_refl _, rfl⟩

theorem Ticks.trans {st st' st'' : Stack} (h : st.Ticks st') (h' : st'.Ticks st'') :
    st.Ticks st'' := ⟨Nat.le_trans h.le h'.le, h'.clock.trans h.clock⟩

theorem GivesAlike.split {clock : ℕ → UInt32} {st st' st'' : Stack}
    (h : GivesAlike clock st st'') (h₁ : st.Ticks st') (h₂ : st'.Ticks st'') :
    GivesAlike clock st st' ∧ GivesAlike clock st' st'' := by
  refine ⟨fun n hn hlt => h n hn (Nat.lt_of_lt_of_le hlt h₂.le), fun n hn hlt => ?_⟩
  rw [h₁.clock]
  exact h n (Nat.le_trans h₁.le hn) hlt

variable (clock : ℕ → UInt32)

theorem beginning_reclocked (st : Stack) (dialog : String) (options : LaunchOptions) :
    (st.reclocked clock).beginning dialog options =
      (((st.beginning dialog options).1).reclocked clock, (st.beginning dialog options).2) := by
  have hdialogs : (st.reclocked clock).dialogs = st.dialogs := rfl
  unfold beginning
  rw [hdialogs]
  cases st.dialogs.find dialog <;> rfl

theorem ticks_beginning (st : Stack) (dialog : String) (options : LaunchOptions) :
    st.Ticks (st.beginning dialog options).1 := by
  unfold beginning
  cases st.dialogs.find dialog <;> exact ⟨Nat.le_refl _, rfl⟩

theorem replacing_reclocked (st : Stack) (dialog : String) (options : LaunchOptions) :
    (st.reclocked clock).replacing dialog options =
      (((st.replacing dialog options).1).reclocked clock, (st.replacing dialog options).2) := by
  have hdialogs : (st.reclocked clock).dialogs = st.dialogs := rfl
  have hframes : (st.reclocked clock).frames = st.frames := rfl
  unfold replacing
  rw [hdialogs, hframes]
  cases st.dialogs.find dialog with
  | error e => rfl
  | ok d =>
    cases st.frames with
    | nil => exact beginning_reclocked clock st dialog options
    | cons frame rest =>
      exact beginning_reclocked clock
        (({ st with frames := rest } : Stack).note (.replacingDialog frame.dialog dialog)) dialog
        options

theorem ticks_replacing (st : Stack) (dialog : String) (options : LaunchOptions) :
    st.Ticks (st.replacing dialog options).1 := by
  unfold replacing
  cases st.dialogs.find dialog with
  | error e => exact .refl st
  | ok d =>
    cases st.frames with
    | nil => exact ticks_beginning st dialog options
    | cons frame rest =>
      obtain ⟨hle, hclock⟩ := ticks_beginning
        (({ st with frames := rest } : Stack).note (.replacingDialog frame.dialog dialog)) dialog
        options
      exact ⟨hle, hclock⟩

theorem finishing_reclocked (st : Stack) (result : Option DialogResult) :
    (st.reclocked clock).finishing result =
      (((st.finishing result).1).reclocked clock, (st.finishing result).2) := by
  have hframes : (st.reclocked clock).frames = st.frames := rfl
  have hexecuting : (st.reclocked clock).executing = st.executing := rfl
  unfold finishing
  rw [hframes, hexecuting]
  match st.frames with
  | [] => rfl
  | [frame] => rfl
  | frame :: parent :: rest =>
    dsimp only
    split <;> rfl

theorem ticks_finishing (st : Stack) (result : Option DialogResult) :
    st.Ticks (st.finishing result).1 := by
  unfold finishing
  match st.frames with
  | [] => exact .refl st
  | [frame] => exact ⟨Nat.le_refl _, rfl⟩
  | frame :: parent :: rest =>
    dsimp only
    split <;> exact ⟨Nat.le_refl _, rfl⟩

end Stack

namespace Moment

open Stack

/-- The moment with another clock. -/
def reclocked (m : Moment) (clock : ℕ → UInt32) : Moment :=
  { m with stack := m.stack.reclocked clock }

theorem ticks_asked (m : Moment) (id : ℕ) (taken : Session) (r : Request)
    (next : r.Answer → Remainder) : m.stack.Ticks (m.asked id taken r next).stack := by
  cases r with
  | begin dialog options => exact ticks_beginning m.stack dialog options
  | replace dialog options => exact ticks_replacing m.stack dialog options
  | finish result => exact ticks_finishing m.stack result
  | seed => exact ⟨Nat.le_succ _, rfl⟩
  | send | active | note | cancelAll => exact ⟨Nat.le_refl _, rfl⟩

theorem asked_reclocked (m : Moment) (id : ℕ) (taken : Session) (r : Request)
    (next : r.Answer → Remainder) {clock : ℕ → UInt32}
    (h : GivesAlike clock m.stack (m.asked id taken r next).stack) :
    (m.reclocked clock).asked id taken r next = (m.asked id taken r next).reclocked clock := by
  cases r with
  | begin dialog options =>
    have hopened := beginning_reclocked clock m.stack dialog options
    simp only [asked, reclocked, hopened]
  | replace dialog options =>
    have hopened := replacing_reclocked clock m.stack dialog options
    simp only [asked, reclocked, hopened]
  | finish result =>
    have hopened := finishing_reclocked clock m.stack result
    simp only [asked, reclocked, hopened]
  | seed =>
    -- the number that is given is the one at the count
    have hgiven : clock m.stack.ticks = m.stack.clock m.stack.ticks :=
      h m.stack.ticks (Nat.le_refl _) (Nat.lt_succ_self _)
    simp only [asked, reclocked, Stack.reclocked, hgiven]
  | send | active | note | cancelAll => rfl

theorem ticks_next {m m' : Moment} (hm : m.next? = some m') : m.stack.Ticks m'.stack := by
  cases step_of_next? hm with
  | finish id taken o session => cases o <;> exact ⟨Nat.le_refl _, rfl⟩
  | ask id taken r next => exact ticks_asked _ id taken r next
  | missing | unregistered | enter | stop | resume | discard | answer =>
    exact ⟨Nat.le_refl _, rfl⟩

theorem ticks_leads {m m' : Moment} (h : m.Leads m') : m.stack.Ticks m'.stack :=
  h.invariant (I := fun t => m.stack.Ticks t.stack) (.refl _) fun _ _ ht hstep =>
    ht.trans (ticks_next hstep)

/-- **A step sees of the clock no more than the number it is given.** -/
theorem next?_reclocked {m m' : Moment} (hm : m.next? = some m') {clock : ℕ → UInt32}
    (h : GivesAlike clock m.stack m'.stack) :
    (m.reclocked clock).next? = some (m'.reclocked clock) := by
  cases step_of_next? hm with
  | missing hf => exact next?_entering_of_frame?_eq_none hf
  | unregistered hf hd => exact next?_entering_of_find_eq_error hf hd
  | enter hf hd => exact next?_entering hf hd
  | finish id taken o session => cases o <;> rfl
  | ask id taken r next => exact congrArg some (asked_reclocked _ id taken r next h)
  | stop hp => exact next?_stopped_of_lookup_eq_none hp
  | resume hp htop => exact next?_stopped_of_top hp htop
  | discard hp htop => exact next?_stopped_of_not_top hp htop
  | answer => rfl

theorem leads_reclocked {m m' : Moment} (h : m.Leads m') {clock : ℕ → UInt32}
    (halike : GivesAlike clock m.stack m'.stack) :
    (m.reclocked clock).Leads (m'.reclocked clock) := by
  obtain ⟨n, hn⟩ := h
  induction n generalizing m with
  | zero =>
    obtain rfl : m = m' := Option.some.inj hn
    exact .refl _
  | succ n ih =>
    obtain ⟨m₁, hnext, hn⟩ := Option.bind_eq_some_iff.1 hn
    obtain ⟨hfirst, hrest⟩ := halike.split (ticks_next hnext) (ticks_leads ⟨n, hn⟩)
    exact .head (next?_reclocked hnext hfirst) (ih hrest hn)

end Moment

namespace Stack

variable {c : Call} {st st₁ : Stack} {outcome : Except DialogError (Option TurnStatus)}

theorem ticks_opening {m : Moment} (hm : c.opening? st = some m) : st.Ticks m.stack := by
  cases c with
  | start dialog options | begin dialog options =>
    obtain rfl := Option.some.inj hm
    exact ticks_beginning st dialog options
  | replace dialog options =>
    obtain rfl := Option.some.inj hm
    exact ticks_replacing st dialog options
  | finish result =>
    obtain rfl := Option.some.inj hm
    exact ticks_finishing st result
  | continueTurn activity =>
    obtain ⟨frame, -, rfl⟩ := Option.map_eq_some_iff.1 hm
    exact .refl st
  | cancelAll | send => cases hm

theorem opening?_reclocked (c : Call) (st : Stack) (clock : ℕ → UInt32) :
    c.opening? (st.reclocked clock) = (c.opening? st).map (·.reclocked clock) := by
  cases c with
  | start dialog options | begin dialog options =>
    have hopened := beginning_reclocked clock st dialog options
    simp only [Call.opening?, Call.atOpening, hopened]
    rfl
  | replace dialog options =>
    have hopened := replacing_reclocked clock st dialog options
    simp only [Call.opening?, Call.atOpening, hopened]
    rfl
  | finish result =>
    have hopened := finishing_reclocked clock st result
    simp only [Call.opening?, Call.atOpening, hopened]
    rfl
  | continueTurn activity =>
    have htop : (st.reclocked clock).top? = st.top? := rfl
    simp only [Call.opening?, htop, Option.map_map]
    rfl
  | cancelAll | send => rfl

theorem Returns.ticks (h : Returns c st outcome st₁) : st.Ticks st₁ := by
  cases hm : c.opening? st with
  | some m =>
    obtain ⟨o, ⟨hlead, -⟩, -⟩ := (returns_iff_ends hm).1 h
    exact (ticks_opening hm).trans (Moment.ticks_leads hlead)
  | none =>
    rcases (returns_of_opening?_eq_none hm).1 h with
      ⟨-, -, -, rfl⟩ | ⟨-, -, rfl⟩ | ⟨-, -, -, rfl⟩ <;> exact ⟨Nat.le_refl _, rfl⟩

/-- **A call sees of the clock no more than the numbers it is given.** -/
theorem Returns.reclocked (h : Returns c st outcome st₁) {clock : ℕ → UInt32}
    (halike : GivesAlike clock st st₁) :
    Returns c (st.reclocked clock) outcome (st₁.reclocked clock) := by
  have hopening := opening?_reclocked c st clock
  cases hm : c.opening? st with
  | some m =>
    obtain ⟨o, ⟨hlead, -⟩, htold⟩ := (returns_iff_ends hm).1 h
    rw [hm, Option.map_some] at hopening
    obtain ⟨-, hrest⟩ := halike.split (ticks_opening hm) (Moment.ticks_leads hlead)
    have htold' : c.told o (st₁.reclocked clock) = outcome := by
      rw [← htold]
      cases c <;> rfl
    exact (returns_iff_ends hopening).2
      ⟨o, ⟨Moment.leads_reclocked hlead hrest, Moment.next?_arrived_nil _⟩, htold'⟩
  | none =>
    rw [hm, Option.map_none] at hopening
    refine (returns_of_opening?_eq_none hopening).2 ?_
    rcases (returns_of_opening?_eq_none hm).1 h with
      ⟨activity, hc, ho, rfl⟩ | ⟨hc, ho, rfl⟩ | ⟨message, hc, ho, rfl⟩
    · exact .inl ⟨activity, hc, ho, rfl⟩
    · exact .inr (.inl ⟨hc, ho, rfl⟩)
    · exact .inr (.inr ⟨message, hc, ho, rfl⟩)

/-! ### Stacks with different clocks -/

/-- A clock that gives a number of numbers, then a one, and then nothing but zeros. -/
def marked (given : ℕ → UInt32) (count n : ℕ) : UInt32 :=
  if n < count then given n else if n = count then 1 else 0

/-- The mark tells the count. -/
theorem eq_of_marked_eq {given : ℕ → UInt32} {m n : ℕ}
    (h : ∀ k, marked given m (m + k) = marked given m (n + k)) : m = n := by
  by_contra hne
  have hmark : marked given m m = 1 := by simp [marked]
  have hzero {i : ℕ} (hi : m < i) : marked given m i = 0 := by
    have hlt : ¬ i < m := by omega
    have hi' : i ≠ m := by omega
    simp [marked, hlt, hi']
  rcases Nat.lt_or_gt_of_ne hne with hlt | hgt
  · have hfirst := h 0
    rw [Nat.add_zero, Nat.add_zero, hmark, hzero hlt] at hfirst
    cases hfirst
  · have hlater := h (m - n)
    have hm : n + (m - n) = m := by omega
    rw [hm, hmark, hzero (by omega)] at hlater
    cases hlater

/-- What two stacks have in common that differ in their clocks and in the numbers of their
sessions. -/
structure Resembles (st st' : Stack) : Prop where
  quiescent : st.Quiescent
  quiescent' : st'.Quiescent
  dialogs : st.dialogs = st'.dialogs
  snapshot : st.snapshot = st'.snapshot

theorem Quiescent.reclocked (h : st.Quiescent) (clock : ℕ → UInt32) :
    (st.reclocked clock).Quiescent := ⟨h.toOrderly.congr rfl rfl rfl, h.executing, h.pending⟩

/-- **What returns from a stack returns from one that resembles it** if it is given the same
numbers there: with the same outcome, the same gain and as many numbers, and the stacks left behind
resemble each other again. -/
theorem Resembles.returns {st' : Stack} (h : Resembles st st') (hc : Returns c st outcome st₁)
    (hclock : ∀ k, st.ticks + k < st₁.ticks →
      st'.clock (st'.ticks + k) = st.clock (st.ticks + k)) :
    ∃ st₁', Returns c st' outcome st₁' ∧ SameGain st st' st₁ st₁' ∧ Resembles st₁ st₁' ∧
      st₁'.ticks - st'.ticks = st₁.ticks - st.ticks := by
  -- behind the numbers that the call is given, both clocks have a mark
  let given (k : ℕ) : UInt32 := st.clock (st.ticks + k)
  let count := st₁.ticks - st.ticks
  let K (n : ℕ) : UInt32 := marked given count (n - st.ticks)
  let K' (n : ℕ) : UInt32 := marked given count (n - st'.ticks)
  have hK {n : ℕ} (hn : st.ticks ≤ n) (hlt : n < st₁.ticks) : K n = st.clock n := by
    have hcount : n - st.ticks < count := by omega
    have hadd : st.ticks + (n - st.ticks) = n := by omega
    simp only [K, marked, if_pos hcount, given, hadd]
  have hmarked : Returns c (st.reclocked K) outcome (st₁.reclocked K) :=
    hc.reclocked fun n hn hlt => hK hn hlt
  have hagree : Agree (st.reclocked K) (st'.reclocked K') := by
    refine ⟨h.quiescent.reclocked K, h.quiescent'.reclocked K', h.dialogs, h.snapshot, fun k => ?_⟩
    show K (st.ticks + k) = K' (st'.ticks + k)
    simp only [K, K', Nat.add_sub_cancel_left]
  obtain ⟨x, hx, hgain, hafter⟩ := hagree.returns hmarked
  have hticks := hx.ticks
  have hle : st'.ticks ≤ x.ticks := hticks.le
  have hle₁ := hc.ticks.le
  have hcount : count = x.ticks - st'.ticks := by
    refine @eq_of_marked_eq given _ _ fun k => ?_
    have hk := hafter.clock k
    rw [hticks.clock] at hk
    have hleft : st₁.ticks + k - st.ticks = count + k := by omega
    have hright : x.ticks + k - st'.ticks = x.ticks - st'.ticks + k := by omega
    have hk : K (st₁.ticks + k) = K' (x.ticks + k) := hk
    simpa only [K, K', hleft, hright] using hk
  have halike : GivesAlike st'.clock (st'.reclocked K') x := by
    intro n hn hlt
    have hn : st'.ticks ≤ n := hn
    have hbelow : n - st'.ticks < count := by omega
    have hadd : st'.ticks + (n - st'.ticks) = n := by omega
    show st'.clock n = K' n
    simp only [K', marked, if_pos hbelow, given]
    rw [← hclock _ (by omega), hadd]
  have hback := hx.reclocked halike
  exact ⟨x.reclocked st'.clock, hback, ⟨hgain.sent, hgain.recorded⟩,
    ⟨h.quiescent.returns hc, h.quiescent'.returns hback, hafter.dialogs, hafter.snapshot⟩,
    hcount.symm⟩

end Stack

end Parley

import Parley.Proofs.Index.Overrun
import Parley.Proofs.Scope.Turns

/-!
# What runs keep of the stored sessions

A run works on a copy of its session, and other sessions may be run before the copy is written back.
So a property of sessions is kept from moment to moment if every run leaves it behind, however it
ends and whatever it is answered: then it holds of all sessions that are stored, and it is going to
hold of those that are still to be written back (`Moment.Stores`).

A property may get weaker with every run.  `DialogSet.Lasting` says of a family of properties, one
for each number of runs so far, that runs go along it; `DialogSet.Lasting.follows` carries it
through calls on a stack that is handed on, counting the runs (`Stack.Follows`).  Nothing has to be
written back for a run that ends its own dialog before anything else.
-/

namespace Parley

open Stepping

/-- A property of sessions, which may depend on the dialog. -/
abbrev Dialog.Property := Dialog → Session → Prop

namespace Stack

/-- All sessions on a stack have a property. -/
def Stores (P : Dialog.Property) (st : Stack) : Prop :=
  ∀ f ∈ st.frames, ∀ d, st.dialogs.find f.dialog = .ok d → P d f.session

/-- What is left of a run leaves the session of a number with a property, if it is still there. -/
def Awaits (P : Dialog.Property) (st : Stack) (id : ℕ) (rest : Remainder) : Prop :=
  ∀ f ∈ st.frames, f.id = id → ∀ d, st.dialogs.find f.dialog = .ok d →
    rest.Always fun y => P d y.2

variable {P Q : Dialog.Property} {st st' : Stack} {id : ℕ} {rest : Remainder}

theorem Awaits.mono (h : st.Awaits P id rest) (hPQ : ∀ d s, P d s → Q d s) :
    st.Awaits Q id rest :=
  fun f hf hid d hd => (h f hf hid d hd).mono fun _ hy => hPQ d _ hy

/-- Numbers stay with their sessions, so it does not matter what has become of the others. -/
theorem Awaits.later (h : st.Awaits P id rest) (hlater : st.Later st')
    (hdialogs : st'.dialogs = st.dialogs) (hid : id < st.nextFrame) : st'.Awaits P id rest := by
  intro f' hf' hown d hd
  rcases hlater.frames f' hf' with ⟨f, hf, hsame, hdialog⟩ | hfresh
  · exact h f hf (hsame.trans hown) d (hdialog ▸ hdialogs ▸ hd)
  · exact absurd hfresh (Nat.not_le.2 (hown ▸ hid))

/-- What a run asks for is answered in one way or another. -/
theorem Awaits.answered {r : Request} {next : r.Answer → Remainder}
    (h : st.Awaits P id (.ask r next)) (answer : r.Answer) : st.Awaits P id (next answer) :=
  fun f hf hid d hd => h f hf hid d hd answer

end Stack

namespace Moment

/-- The run of the session on top is about to end its dialog. -/
def Concludes (m : Moment) (id : ℕ) (rest : Remainder) : Prop :=
  (∃ f, m.stack.top? = some f ∧ f.id = id) ∧ ∃ result, Remainder.Finishes result rest

/-- All sessions that are stored have a property, and those that are to be written back are going to
have it. -/
structure Stores (P : Dialog.Property) (m : Moment) : Prop where
  stored : m.stack.Stores P
  running : ∀ id taken rest, m.phase = .running id taken rest →
    m.stack.Awaits P id rest ∨ m.Concludes id rest
  suspended : ∀ w ∈ m.suspended, ∀ outcome, m.stack.Awaits P w.id (w.next outcome)

variable {P Q : Dialog.Property} {m m' : Moment}

/-- A run that is about to end its dialog goes on to do so, or its session is gone. -/
theorem Concludes.next {id : ℕ} {taken : Session} {rest : Remainder} (h : m.Concludes id rest)
    (hsound : m.Sound) (hphase : m.phase = .running id taken rest) (hm : m.next? = some m') :
    (∃ rest', m'.phase = .running id taken rest' ∧ m'.suspended = m.suspended ∧
        m'.Concludes id rest') ∨
      (∀ id taken rest, m'.phase ≠ .running id taken rest) ∧
        ∀ f ∈ m'.stack.frames, f.id ≠ id := by
  obtain ⟨st, phase, K⟩ := m
  obtain rfl : phase = .running id taken rest := hphase
  obtain ⟨⟨f, htop, rfl⟩, result, hfinishes⟩ := h
  have htop : st.top? = some f := htop
  cases hfinishes with
  | finish next =>
    obtain rfl := Option.some.inj hm
    refine .inr ⟨Scoped.not_running_of_opened st (.finish (some result)), fun g hg hid => ?_⟩
    -- the session on top has been taken off, and its number tells it from the others
    have hoff := (Stack.takesOff_finishing htop result).frames
    have hascending := hsound.orderly.ascending
    have hframes : st.frames = f :: (st.finishing (some result)).1.frames := hoff
    rw [hframes] at hascending
    exact absurd hid (Nat.ne_of_lt ((List.pairwise_cons.1 hascending).1 g hg))
  | active hnext =>
    obtain rfl := Option.some.inj hm
    have hactive : st.active? = some f.dialog := by rw [Stack.active?, htop, Option.map_some]
    refine .inl ⟨_, rfl, rfl, ⟨f, htop, rfl⟩, result, ?_⟩
    rw [hactive]
    exact hnext f.dialog
  | note hnext =>
    obtain rfl := Option.some.inj hm
    exact .inl ⟨_, rfl, rfl, ⟨f, htop, rfl⟩, result, hnext⟩

namespace Stores

section

variable (h : m.Stores P) (hPQ : ∀ d s, P d s → Q d s) (hm : m.next? = some m') (hsound : m.Sound)

include h hPQ hm

theorem stored_next
    (hlaunch : ∀ id d, m.stack.dialogs.find id = .ok d → ∀ options, Q d (.launch options)) :
    m'.stack.Stores Q := by
  intro f' hf' d hd
  rw [dialogs_next hm] at hd
  cases step_of_next? hm with
  | @finish st K id taken o session =>
    rw [frames_finished] at hf'
    obtain ⟨g, hg, hid, hdialog, hsession⟩ := Stack.exists_of_mem_frames_store hf'
    by_cases hown : f'.id = id
    · rw [hsession, if_pos hown]
      rcases h.running id taken _ rfl with hawaits | ⟨-, _, hfinishes⟩
      · exact hPQ _ _ (hawaits g hg (hid.trans hown) d (hdialog ▸ hd))
      · cases hfinishes
    · rw [hsession, if_neg hown]
      exact hPQ _ _ (h.stored g hg d (hdialog ▸ hd))
  | @ask st K id taken r next =>
    rcases mem_or_launches_of_asked hf' with hold | hnew
    · exact hPQ _ _ (h.stored f' hold d hd)
    · obtain ⟨options, hsession⟩ := hnew.session
      exact hsession ▸ hlaunch _ d hd options
  | missing | unregistered | enter | stop | resume | discard | answer =>
    exact hPQ _ _ (h.stored f' hf' d hd)

include hsound

omit h in
/-- What is awaited of a run that is under way is still awaited at the next moment. -/
theorem awaits_next {run : ℕ × Session} (hrun : run ∈ m.runs) {rest : Remainder}
    (hawaits : m.stack.Awaits P run.1 rest) : m'.stack.Awaits Q run.1 rest :=
  (hawaits.mono hPQ).later (later_next hm) (dialogs_next hm) (hsound.lt_nextFrame hrun)

theorem suspended_next :
    ∀ w ∈ m'.suspended, ∀ outcome, m'.stack.Awaits Q w.id (w.next outcome) := by
  have hold : ∀ w ∈ m.suspended, ∀ outcome, m'.stack.Awaits Q w.id (w.next outcome) :=
    fun w hw outcome => awaits_next hPQ hm hsound (mem_runs_of_mem_suspended hw)
      (h.suspended w hw outcome)
  cases step_of_next? hm with
  | finish id taken o session => cases o <;> exact hold
  | missing | unregistered | enter | stop | resume | discard => exact hold
  | answer => exact fun w hw => hold w (List.mem_cons_of_mem _ hw)
  | @ask st K id taken r next =>
    -- a run that ends its dialog has no session any more that could be written back
    have hasked : (∀ answer, (asked ⟨st, .running id taken (.ask r next), K⟩ id taken r
          next).stack.Awaits Q id (next answer)) ∨
        (asked ⟨st, .running id taken (.ask r next), K⟩ id taken r next).suspended = K ∨
          ∀ f ∈ (asked ⟨st, .running id taken (.ask r next), K⟩ id taken r next).stack.frames,
            f.id ≠ id := by
      rcases h.running id taken _ rfl with hawaits | hconcludes
      · exact .inl fun answer => awaits_next hPQ hm hsound (mem_runs_of_running rfl)
          (hawaits.answered answer)
      · rcases hconcludes.next hsound rfl hm with ⟨_, -, hsame, -⟩ | ⟨-, hgone⟩
        · exact .inr (.inl hsame)
        · exact .inr (.inr hgone)
    cases r with
    | send | active | note | seed | cancelAll => exact hold
    | begin | replace | finish =>
      refine List.forall_mem_cons.2 ⟨fun outcome => ?_, hold⟩
      rcases hasked with hawaits | hsame | hgone
      · exact hawaits outcome
      · exact absurd hsame (List.cons_ne_self _ _)
      · exact fun f hf hid => absurd hid (hgone f hf)

theorem running_next
    (henter : ∀ (f : Frame) (d : Dialog) (task : Dialog → SessionM TurnStatus),
      m.phase = .entering f.id task → m.stack.top? = some f →
        m.stack.dialogs.find f.dialog = .ok d →
          (((task d).run.run f.session).Always fun y => Q d y.2) ∨
            ∃ result, Remainder.Finishes result ((task d).run.run f.session)) :
    ∀ id taken rest, m'.phase = .running id taken rest →
      m'.stack.Awaits Q id rest ∨ m'.Concludes id rest := by
  intro id' taken' rest' hphase
  cases step_of_next? hm with
  | missing | unregistered | stop | resume | discard => cases hphase
  | finish id taken o session => cases o <;> cases hphase
  | @enter st id task K frame d hf hd =>
    obtain ⟨-, f, htop, rfl⟩ : id ∉ st.executing ∧ ∃ f, st.top? = some f ∧ f.id = id := hsound.phase
    cases hphase
    obtain rfl : f = frame := Option.some.inj ((Stack.frame?_of_top? htop).symm.trans hf)
    rcases henter f d task rfl htop hd with halways | hfinishes
    · refine .inl fun g hg hid d' hd' => ?_
      obtain rfl := hsound.orderly.eq_of_id_eq hg (Stack.mem_frames_of_top? htop) hid
      obtain rfl := Except.ok.inj (hd.symm.trans hd')
      exact halways
    · exact .inr ⟨⟨f, htop, rfl⟩, hfinishes⟩
  | @answer st outcome w K =>
    cases hphase
    exact .inl (awaits_next hPQ hm hsound (mem_runs_of_mem_suspended List.mem_cons_self)
      (h.suspended w List.mem_cons_self outcome))
  | @ask st K id taken r next =>
    rcases h.running id taken _ rfl with hawaits | hconcludes
    · have hanswered (answer : r.Answer) := awaits_next hPQ hm hsound (mem_runs_of_running rfl)
        (hawaits.answered answer)
      cases r with
      | send | active | note | seed | cancelAll =>
        cases hphase
        exact .inl (hanswered _)
      | begin dialog options =>
        exact absurd hphase (Scoped.not_running_of_opened st (.begin dialog options) _ _ _)
      | replace dialog options =>
        exact absurd hphase (Scoped.not_running_of_opened st (.replace dialog options) _ _ _)
      | finish result =>
        exact absurd hphase (Scoped.not_running_of_opened st (.finish result) _ _ _)
    · rcases hconcludes.next hsound rfl hm with ⟨rest, hphase', -, hgoesOn⟩ | ⟨hnot, -⟩
      · obtain ⟨rfl, -, rfl⟩ := Phase.running.inj (hphase'.symm.trans hphase)
        exact .inr hgoesOn
      · exact absurd hphase (hnot _ _ _)

end

end Stores

/-- A moment of a call on a set of dialogs, as far as the stored sessions are concerned. -/
structure Lasts (dialogs : DialogSet) (P : Dialog.Property) (m : Moment) : Prop where
  sound : m.Sound
  opened : m.Opened
  dialogs_eq : m.stack.dialogs = dialogs
  stores : m.Stores P

end Moment

/-- Properties of sessions, one for each number of runs so far: they hold of sessions that are
launched, and go along with the runs. -/
structure DialogSet.Lasting (dialogs : DialogSet) (P : ℕ → Dialog.Property) : Prop where
  mono : ∀ n d s, P n d s → P (n + 1) d s
  launch : ∀ n id d, dialogs.find id = .ok d → ∀ options, P n d (.launch options)
  /-- A run leaves its session with the next property, or it ends its own dialog before anything
  else. -/
  run : ∀ n id d, dialogs.find id = .ok d → ∀ (task : Task) s, P n d s →
    (task = .begin → ∃ options, s = .launch options) →
      (((task.on d).run.run s).Always fun y => P (n + 1) d y.2) ∨
        ∃ result, Remainder.Finishes result ((task.on d).run.run s)

namespace Stack

/-- Calls on a stack, one after another, with the number of runs in them.  Messages may be taken out
in between. -/
inductive Follows (start : Stack) : ℕ → Stack → Prop where
  | refl : Follows start 0 start
  | call {runs : ℕ} {st st' : Stack} {c : Call} {m : Moment}
      {ws : List (ℕ × (Dialog → SessionM TurnStatus))} {o : Except DialogError TurnStatus}
      (h : Follows start runs st) (hopen : c.opening? st = some m)
      (hpasses : Passes Moment.next? Moment.entered? m ws (Moment.arrived [] (o, st'))) :
      Follows start (runs + ws.length) st'
  /-- A call that runs no session. -/
  | idle {runs : ℕ} {st st' : Stack} {c : Call}
      {outcome : Except DialogError (Option TurnStatus)} (h : Follows start runs st)
      (hopen : c.opening? st = none) (hreturns : Returns c st outcome st') : Follows start runs st'
  | drain {runs : ℕ} {st : Stack} (h : Follows start runs st) : Follows start runs st.drain.2

namespace Follows

variable {start st : Stack} {runs : ℕ}

theorem reachable (h : start.Follows runs st) (hstart : start.Reachable) : st.Reachable := by
  induction h with
  | refl => exact hstart
  | call _ hopen hpasses ih =>
    exact ih.call ((returns_iff_ends hopen).2 ⟨_, ⟨hpasses.leads, rfl⟩, rfl⟩)
  | idle _ _ hreturns ih => exact ih.call hreturns
  | drain _ ih => exact ih.drain

end Follows

end Stack

namespace DialogSet.Lasting

variable {dialogs : DialogSet} {P : ℕ → Dialog.Property} {n : ℕ} {m m' : Moment}
  {ws : List (ℕ × (Dialog → SessionM TurnStatus))}

/-- **From one moment to the next** the properties go along with the runs that begin. -/
theorem next (hP : dialogs.Lasting P) (h : m.Lasts dialogs (P n)) (hm : m.next? = some m') :
    m'.Lasts dialogs (P (n + m.entered?.toList.length)) := by
  have hlaunch (n : ℕ) (id : String) (d : Dialog) (hd : m.stack.dialogs.find id = .ok d)
      (options : LaunchOptions) : P n d (.launch options) :=
    hP.launch n id d (h.dialogs_eq ▸ hd) options
  refine ⟨h.sound.next hm, Moment.opened_next hm, (Moment.dialogs_next hm).trans h.dialogs_eq, ?_⟩
  cases hseen : m.entered? with
  | none =>
    have hsame : ∀ d s, P n d s → P n d s := fun _ _ hs => hs
    refine ⟨h.stores.stored_next hsame hm (hlaunch n),
      h.stores.running_next hsame hm h.sound fun f d task hphase => ?_,
      h.stores.suspended_next hsame hm h.sound⟩
    rw [Moment.entered?, hphase] at hseen
    cases hseen
  | some w =>
    refine ⟨h.stores.stored_next (hP.mono n) hm (hlaunch (n + 1)),
      h.stores.running_next (hP.mono n) hm h.sound fun f d task hphase htop hd => ?_,
      h.stores.suspended_next (hP.mono n) hm h.sound⟩
    obtain ⟨t, rfl, hfresh⟩ := h.opened f.id task hphase
    refine hP.run n f.dialog d (h.dialogs_eq ▸ hd) t f.session
      (h.stores.stored f (Stack.mem_frames_of_top? htop) d hd) fun ht => ?_
    obtain ⟨g, options, hg, hsession⟩ := hfresh ht
    obtain rfl := Option.some.inj (htop.symm.trans hg)
    exact ⟨options, hsession⟩

theorem passes (hP : dialogs.Lasting P) (h : m.Lasts dialogs (P n))
    (hpasses : Passes Moment.next? Moment.entered? m ws m') :
    m'.Lasts dialogs (P (n + ws.length)) :=
  hpasses.invariant (I := fun ws t => t.Lasts dialogs (P (n + ws.length))) h fun ws t t' ht hm => by
    rw [List.length_append, ← Nat.add_assoc]
    exact hP.next ht hm

variable {start st : Stack} {runs : ℕ}

theorem opening (hP : dialogs.Lasting P) (hst : st.Reachable) (hdialogs : st.dialogs = dialogs)
    (hstores : st.Stores (P n)) {c : Stack.Call} (hopen : c.opening? st = some m) :
    m.Lasts dialogs (P n) := by
  have hsame := Stack.dialogs_opening hopen
  obtain ⟨hsuspended, hphase⟩ := Stack.idle_opening hopen
  refine ⟨hst.quiescent.sound ⟨m, hopen, .refl m⟩, Moment.opened_opening hopen,
    hsame.trans hdialogs, fun f hf d hd => ?_,
    fun id taken rest hrun => absurd hrun (hphase id taken rest), fun w hw => ?_⟩
  · rcases Stack.mem_or_launches_of_opening hopen hf with hold | hnew
    · exact hstores f hold d (hsame ▸ hd)
    · obtain ⟨options, hsession⟩ := hnew.session
      exact hsession ▸ hP.launch n f.dialog d (hdialogs ▸ hsame ▸ hd) options
  · rw [hsuspended] at hw
    cases hw

/-- **Through calls on a stack** the properties go along with the runs. -/
theorem follows (hP : dialogs.Lasting P) (hstart : start.Reachable)
    (hdialogs : start.dialogs = dialogs) (hstores : start.Stores (P 0))
    (h : start.Follows runs st) : st.dialogs = dialogs ∧ st.Stores (P runs) := by
  induction h with
  | refl => exact ⟨hdialogs, hstores⟩
  | @call runs st st' c m ws o hcalls hopen hpasses ih =>
    obtain ⟨hdialogs, hstores⟩ := ih
    have hlasts := hP.passes (hP.opening (hcalls.reachable hstart) hdialogs hstores hopen) hpasses
    exact ⟨hlasts.dialogs_eq, hlasts.stores.stored⟩
  | @idle runs st st' c outcome hcalls hopen hreturns ih =>
    obtain ⟨hdialogs, hstores⟩ := ih
    refine ⟨hreturns.dialogs_eq.trans hdialogs, ?_⟩
    rcases (Stack.returns_of_opening?_eq_none hopen).1 hreturns with
      ⟨_, -, -, rfl⟩ | ⟨-, -, rfl⟩ | ⟨_, -, -, rfl⟩
    · exact hstores
    · exact fun f hf => absurd hf List.not_mem_nil
    · exact hstores
  | drain _ ih => exact ih

/-- So they do at every moment of a call. -/
theorem lasts (hP : dialogs.Lasting P) (hstart : start.Reachable)
    (hdialogs : start.dialogs = dialogs) (hstores : start.Stores (P 0))
    (h : start.Follows runs st) {c : Stack.Call} {m₀ : Moment} (hopen : c.opening? st = some m₀)
    (hpasses : Passes Moment.next? Moment.entered? m₀ ws m) :
    m.Lasts dialogs (P (runs + ws.length)) := by
  obtain ⟨hdialogs, hstores⟩ := hP.follows hstart hdialogs hstores h
  exact hP.passes (hP.opening (h.reachable hstart) hdialogs hstores hopen) hpasses

end DialogSet.Lasting

end Parley

import Parley.Proofs.Conversation.Captures
import Parley.Proofs.Store.Script

/-!
# Stacks that can be stored

Between two turns every session of a stack rests: it is under way, and reads back
(`Session.Rests`).  Scripts put nothing into their variables that does not read back, and a session
that is left on the stack stands on a line of its dialog, so its line numbers are small enough.  So
a turn that does not fail leaves the sessions of the stack at rest if they were at rest before
(`Stack.Quiescent.atRest_of_returns`).

The invariant is that of the flat machine: the session on top is fit for what it is to do, and those
below rest (`Flat.Tends`).  Nothing is assumed of where sessions stand, so the scripts may have been
changed between two turns.
-/

namespace Parley

/-- A session that is under way and reads back. -/
structure Session.Rests (s : Session) : Prop extends s.Exact where
  status : s.status = .running

/-- All sessions of a stack rest. -/
def Stack.AtRest (st : Stack) : Prop := ∀ f ∈ st.frames, f.session.Rests

/-- No thread has more lines than there are numbers for lines. -/
def Dialog.Addressable (d : Dialog) : Prop :=
  ∀ thread lines, d.script.thread? thread = some lines → lines.length ≤ Session.indexBound

/-- So it is in all dialogs of a stack. -/
def Stack.Addressable (st : Stack) : Prop := ∀ id d, st.dialogs.find id = .ok d → d.Addressable

/-- A session is fit for what it is to do. -/
def Task.Fits : Task → Session → Prop
  | .begin, s => s.resumeIndex = none ∧ s.Faithful
  | .resume input, s => s.Rests ∧ TurnInput.Faithful input
  | .continueWith activity, s => s.Rests ∧ TurnInput.Faithful (some (.message activity))

/-- A message of a user has no value but its text. -/
theorem TurnInput.faithful_message (channel conversation user text : String) :
    TurnInput.Faithful (some (.message (Activity.message channel conversation user text))) := by
  intro answer ha
  obtain ⟨hcontent, -⟩ := Option.filter_eq_some_iff.1 ha
  rw [TurnInput.content?, Activity.message] at hcontent
  dsimp only at hcontent
  split at hcontent
  · cases hcontent
  · obtain rfl := Option.some.inj hcontent
    exact Json.exact_string text

theorem TurnInput.faithful_result {result : Option DialogResult}
    (h : ∀ r, result = some r → r.Exact) :
    TurnInput.Faithful (result.map TurnInput.result) := by
  intro answer ha
  obtain ⟨input, hinput, ha⟩ := Option.bind_eq_some_iff.1 ha
  obtain ⟨r, hr, rfl⟩ := Option.map_eq_some_iff.1 hinput
  obtain ⟨hcontent, -⟩ := Option.filter_eq_some_iff.1 ha
  obtain rfl := Option.some.inj hcontent
  exact h r hr

theorem Session.faithful_launch {options : LaunchOptions} (h : options.Exact) :
    (Session.launch options).Faithful := ⟨h, h⟩

/-! ### Scripts -/

/-- What is handed over reads back. -/
def Handover.Faithful : Handover → Prop
  | .begin _ options | .replace _ options => options.Exact
  | .finish result => ∀ r, result = some r → r.Exact

/-- What holds whatever a script is answered holds of the answers it gets. -/
theorem HostM.Within.play {α : Type} {P : α → Prop} {x : HostM α}
    (hx : x.Within Request.Faithful P) {s s' : Stack × Option Handover} {a : α}
    (hplay : Flat.play x s = some (a, s')) (hs : ∀ asked, s.2 = some asked → asked.Faithful) :
    P a ∧ ∀ asked, s'.2 = some asked → asked.Faithful := by
  induction x generalizing s with
  | done value =>
    cases hplay
    exact ⟨hx, hs⟩
  | abort => cases hplay
  | ask request next ih =>
    refine ih _ (hx.2 _) hplay ?_
    cases request with
    | begin | replace | finish =>
      rintro _ ⟨⟩
      exact hx.1
    | send | active | note | seed | cancelAll => exact hs

namespace Dialog.CallbackFree

variable {d : Dialog} (h : d.CallbackFree)

include h

theorem faithful_task (htidy : d.IsTidy) {task : Task} {s : Session} (hfits : task.Fits s) :
    ((task.on d).run.run s).Within Request.Faithful fun y => y.2.Faithful := by
  have hfaithful : s.Faithful := by
    cases task with
    | begin => exact hfits.2
    | resume | continueWith => exact hfits.1.faithful
  have hfresh : task = .begin → s.resumeIndex = none := by
    rintro rfl
    exact hfits.1
  have hfollows : Spot.Follows d Session.Faithful (fun _ => TurnInput.Faithful) (.starting task)
      s := by
    cases task with
    | begin => exact ⟨hfaithful.options, hfaithful.options⟩
    | resume | continueWith => exact hfits.2
  refine (d.faithful_law.of_task h htidy hfaithful hfresh hfollows).within fun r hr => ?_
  cases r with
  | send | active | note | seed => trivial
  | begin | replace | finish | cancelAll => exact hr.elim

/-- A task parks the session that it fits, or leaves it at rest. -/
theorem achieves_fits (htidy : d.IsTidy) {task : Task} {s : Session} (hfits : task.Fits s) :
    Achieves (fun w => w.session = s ∧ w.asked = none) (task.on d)
      fun _ w => d.Parks w ∨ w.session.Rests ∧ w.asked = none := by
  cases task with
  | begin =>
    refine ((h.achieves_begin htidy s.options.values).strengthen fun w hw => ?_).weaken
      fun _ _ hw => .inl hw.1
    obtain ⟨rfl, hasked⟩ := hw
    exact ⟨hfits.1, hasked, rfl⟩
  | resume input =>
    exact (h.achieves_resume htidy hfits.1.status input).weaken fun _ _ hw => .inl hw.1
  | continueWith activity =>
    show Achieves _ (d.continueWith activity) _
    unfold Dialog.continueWith
    split
    · exact (h.achieves_resume htidy hfits.1.status _).weaken fun _ _ hw => .inl hw.1
    · refine .pure fun w hw => .inr ?_
      obtain ⟨rfl, hasked⟩ := hw
      exact ⟨hfits.1, hasked⟩

end Dialog.CallbackFree

/-- A session that stands on a line rests if its variables read back. -/
theorem Session.rests_of_place {s : Session} (hs : s.Faithful) (hstatus : s.status = .running)
    (hindex : s.stepIndex < Session.indexBound)
    (hresume : s.resumeIndex = none ∨ s.resumeIndex = some s.stepIndex) : s.Rests := by
  refine ⟨⟨hindex, fun i hi => ?_, hs.values, hs.options⟩, hstatus⟩
  rcases hresume with hnone | hsome
  · rw [hnone] at hi
    cases hi
  · obtain rfl := Option.some.inj (hsome.symm.trans hi)
    exact hindex

namespace Dialog

variable {d : Dialog} {s : Session}

theorem AwaitsAnswer.rests (h : d.AwaitsAnswer s) (hd : d.Addressable) (hs : s.Faithful) :
    s.Rests := by
  obtain ⟨lines, hlines, hlt⟩ := h.exists_lt_length
  obtain ⟨_, _, _, _, hresume⟩ := h.place
  exact Session.rests_of_place hs h.status (Nat.lt_of_lt_of_le hlt (hd _ lines hlines))
    (hresume.imp_left fun hasked => hasked.2)

theorem AwaitsChild.rests {execute : Execute} (h : d.AwaitsChild s execute) (hd : d.Addressable)
    (hs : s.Faithful) : s.Rests := by
  obtain ⟨lines, hlines, hlt⟩ := h.exists_lt_length
  exact Session.rests_of_place hs h.status (Nat.lt_of_lt_of_le hlt (hd _ lines hlines))
    (.inl h.resumeIndex)

end Dialog

/-! ### Turns -/

namespace Flat

/-- The session on top is fit for what it is to do, and all others rest.  When a turn has ended and
not failed, all rest. -/
inductive Tends (dialogs : DialogSet) : Flat → Prop where
  | running {task : Task} {st : Stack} {f : Frame} {rest : List Frame}
      (hdialogs : st.dialogs = dialogs) (ho : st.Orderly) (hframes : st.frames = f :: rest)
      (hfits : task.Fits f.session) (hrest : ∀ g ∈ rest, g.session.Rests) :
      Tends dialogs (running task st)
  | halted (status : TurnStatus) {st : Stack} (h : st.AtRest) :
      Tends dialogs (halted (.ok status) st)
  | failed (e : DialogError) (st : Stack) : Tends dialogs (halted (.error e) st)
  | aborted (st : Stack) : Tends dialogs (aborted st)

variable {dialogs : DialogSet} {st : Stack} {f : Frame} {rest : List Frame}

theorem tends_begin (hdialogs : st.dialogs = dialogs) (ho : st.Orderly) (hrest : st.AtRest)
    (dialog : String) {options : LaunchOptions} (hoptions : options.Exact) :
    Tends dialogs (begin dialog options st) := by
  unfold begin
  cases hd : st.dialogs.find dialog with
  | error e => exact .failed e st
  | ok d =>
    have hnoted : (st.note (.beginningDialog dialog st.nextFrame st.depth)).Orderly :=
      ho.congr rfl rfl rfl
    exact .running hdialogs (hnoted.push hd options) rfl
      ⟨rfl, Session.faithful_launch hoptions⟩ hrest

theorem tends_replace (hdialogs : st.dialogs = dialogs) (ho : st.Orderly)
    (hframes : st.frames = f :: rest) (hrest : ∀ g ∈ rest, g.session.Rests)
    (dialog : String) {options : LaunchOptions} (hoptions : options.Exact) :
    Tends dialogs (replace dialog options st) := by
  unfold replace
  rw [hframes]
  cases st.dialogs.find dialog with
  | error e => exact .failed e st
  | ok d =>
    let below := ({ st with frames := rest } : Stack).note (.replacingDialog f.dialog dialog)
    have hdialogs' : below.dialogs = dialogs := hdialogs
    have ho' : below.Orderly := (ho.tail hframes).congr rfl rfl rfl
    exact tends_begin hdialogs' ho' hrest dialog hoptions

theorem tends_finish (hdialogs : st.dialogs = dialogs) (ho : st.Orderly)
    (hframes : st.frames = f :: rest) (hrest : ∀ g ∈ rest, g.session.Rests)
    {result : Option DialogResult} (hresult : ∀ r, result = some r → r.Exact) :
    Tends dialogs (finish result st) := by
  unfold finish
  rw [hframes]
  cases rest with
  | nil => exact .halted .complete fun g hg => absurd hg List.not_mem_nil
  | cons parent below =>
    obtain ⟨hparent, hbelow⟩ := List.forall_mem_cons.1 hrest
    exact .running hdialogs ((ho.tail hframes).congr rfl rfl rfl) rfl
      ⟨hparent, TurnInput.faithful_result hresult⟩ hbelow

theorem tends_stopped {d : Dialog} (hdialogs : st.dialogs = dialogs) (ho : st.Orderly)
    (hframes : st.frames = f :: rest) (hrest : ∀ g ∈ rest, g.session.Rests)
    (hd : d.Addressable) {session : Session} (hsession : session.Faithful)
    {asked : Option Handover} (hasked : ∀ a, asked = some a → a.Faithful)
    (hparks : d.Parks ⟨session, asked⟩ ∨ session.Rests ∧ asked = none) (status : TurnStatus) :
    Tends dialogs (stopped f ((.ok status, session), st, asked)) := by
  have hstored := ho.frames_store hframes session
  have hstore : (st.store f.id session).dialogs = dialogs := hdialogs
  have hatRest (h : session.Rests) : (st.store f.id session).AtRest := by
    unfold Stack.AtRest
    rw [hstored]
    exact List.forall_mem_cons.2 ⟨h, hrest⟩
  cases asked with
  | none =>
    refine .halted status (hatRest ?_)
    rcases hparks with hparks | ⟨hrests, -⟩
    · exact hparks.rests hd hsession
    · exact hrests
  | some asked =>
    have hparks : d.Parks ⟨session, some asked⟩ := hparks.resolve_right fun h => by cases h.2
    have hfaithful := hasked asked rfl
    cases asked with
    | begin dialog options =>
      obtain ⟨execute, -, -, hawaits⟩ := hparks
      exact tends_begin hstore (ho.store _ _) (hatRest (hawaits.rests hd hsession)) dialog
        hfaithful
    | replace dialog options =>
      exact tends_replace hstore (ho.store _ _) hstored hrest dialog hfaithful
    | finish result => exact tends_finish hstore (ho.store _ _) hstored hrest hfaithful

/-- **A step of the flat machine keeps the invariant**, if the dialogs come from texts. -/
theorem Tends.next {t t' : Flat} (h : Tends dialogs t)
    (hloaded : ∀ id d, dialogs.find id = .ok d → d.Loaded ∧ d.Addressable)
    (hnext : t.next? = some t') : Tends dialogs t' := by
  cases h with
  | halted | failed | aborted => cases hnext
  | @running task st f rest hdialogs ho hframes hfits hrest =>
    obtain ⟨d, hd⟩ := ho.registered f (hframes ▸ List.mem_cons_self)
    obtain ⟨hl, haddressable⟩ := hloaded _ d (hdialogs ▸ hd)
    have hfree := hl.callbackFree
    have hpost := hfree.achieves_fits hl.tidy hfits ⟨f.session, none⟩ st
      (hframes ▸ List.cons_ne_nil f rest) ⟨rfl, rfl⟩
    have hstep : t' = played f st (play ((task.on d).run.run f.session) (st, none)) := by
      simp only [next?, Stack.top?, hframes, List.head?_cons, hd] at hnext
      exact (Option.some.inj hnext).symm
    subst hstep
    rcases hwork : work (task.on d) ⟨f.session, none⟩ st with _ | ⟨o, w, st'⟩
    · rw [play_eq_none_of_work hwork]
      exact .aborted st
    have hplay := play_eq_of_work hwork
    have hspared := spared_play (task.yielding hfree f.session) hplay
    have hkeeps := (hfree.faithful_task hl.tidy hfits).play hplay fun a ha => by cases ha
    rw [hplay]
    cases o with
    | error e => exact .failed e _
    | ok status =>
      exact tends_stopped (hspared.dialogs.trans hdialogs) (hspared.orderly ho)
        (hspared.frames.trans hframes) hrest haddressable hkeeps.1 hkeeps.2
        (hpost status w st' hwork).1 status

end Flat

namespace Stack

variable {st st' : Stack} {c : Call}

/-- What a call brings along reads back. -/
def Call.Faithful : Call → Prop
  | .start _ options => options.Exact
  | .continueTurn activity => TurnInput.Faithful (some (.message activity))
  | _ => True

/-- **A turn that does not fail leaves the sessions of a stack at rest**, if they were at rest
before. -/
theorem Quiescent.atRest_of_returns (h : st.Quiescent) (hloaded : st.Loaded)
    (haddressable : st.Addressable) (hrest : st.AtRest) (hc : c.IsTurn) (hfaithful : c.Faithful)
    {status : Option TurnStatus} (hreturns : Returns c st (.ok status) st') : st'.AtRest := by
  have hflat := (h.returns_iff_flat hloaded.callbackFree hc).1 hreturns
  unfold Flat.Returns at hflat
  have hopening {t : Flat} (ht : Flat.opening? c st = some t) : t.Tends st.dialogs := by
    cases c with
    | start dialog options =>
      obtain rfl := Option.some.inj ht
      exact Flat.tends_begin rfl h.toOrderly hrest dialog hfaithful
    | continueTurn activity =>
      obtain ⟨f, hf, rfl⟩ := Option.map_eq_some_iff.1 ht
      obtain ⟨rest, hframes⟩ := top?_eq_some_iff.1 hf
      unfold AtRest at hrest
      rw [hframes] at hrest
      obtain ⟨htop, hbelow⟩ := List.forall_mem_cons.1 hrest
      exact .running rfl h.toOrderly hframes ⟨htop, hfaithful⟩ hbelow
    | begin | replace | finish | cancelAll | send => exact hc.elim
  cases ht : Flat.opening? c st with
  | none =>
    rw [ht] at hflat
    rw [hflat.2]
    exact hrest
  | some t =>
    rw [ht] at hflat
    obtain ⟨o, ⟨hlead, -⟩, ho⟩ := hflat
    have htends := hlead.invariant (hopening ht) fun _ _ htends hnext =>
      htends.next (fun id d hd => ⟨hloaded id d hd, haddressable id d hd⟩) hnext
    cases htends with
    | halted _ hatRest => exact hatRest
    | failed e _ => cases ho

end Stack

end Parley

import Parley.Proofs.Scope.Moment

/-!
# Sessions that wait for one another

A session that has another one above it stands where it has begun a dialog, unless somebody has
started a dialog on top of it.  What is above it may have ended and been replaced meanwhile, and
turns may have failed; the session is not touched before all that is above it is gone.  So if
dialogs are started on empty stacks only, a session is resumed with the result of another one only
there.

This is an invariant of the flat machine (`Flat.Nests`), and wherever the engine is about to run a
session, the flat machine is too (`Moment.Follows`, `Stepping.Refines.exists_of_leads`).
-/

namespace Parley

open Stepping

/-- The session of a frame stands where it has begun a dialog. -/
def Frame.HasBegun (dialogs : DialogSet) (f : Frame) : Prop :=
  ∃ d execute, dialogs.find f.dialog = .ok d ∧ d.HasBegun f.session execute

namespace Dialog.Abides

variable {d : Dialog} {P : Session → Prop} {R : Request → Prop} {α : Type}
  {Q : α → Session → Prop} {final : α → Prop} {x : HostM (Except DialogError α × Session)}

/-- A script that has asked for a dialog to be begun has stopped where it did. -/
theorem hasBegun_of_play (hx : d.Abides P R Q final x) {st st' : Stack} {o : Except DialogError α}
    {s : Session} {dialog : String} {options : LaunchOptions}
    (h : Flat.play x (st, none) = some ((o, s), st', some (.begin dialog options))) :
    ∃ execute, d.HasBegun s execute := by
  induction hx generalizing st with
  | done | abort => cases h
  | @plain r next hr _ ih =>
    cases r with
    | send | active | note | seed => exact ih _ h
    | begin | replace | finish | cancelAll => exact hr.elim
  | begin _ hstops _ _ hbegun =>
    simp only [Flat.play, Flat.answer, hstops.ok] at h
    cases h
    exact hbegun
  | replace _ hstops | finish _ hstops =>
    simp only [Flat.play, Flat.answer, hstops.ok] at h
    cases h

end Dialog.Abides

namespace Flat

/-- The session on top is about to run, and all others have begun dialogs, if `alone` holds; so has
the one on top if it is resumed. -/
inductive Nests (alone : Prop) (c : Stack.Call) (dialogs : DialogSet) : Flat → Prop where
  | begins {st : Stack} {f : Frame} {rest : List Frame} (hdialogs : st.dialogs = dialogs)
      (ho : st.Orderly) (hframes : st.frames = f :: rest)
      (hlaunched : ∃ options, f.session = .launch options)
      (hrest : alone → ∀ g ∈ rest, g.HasBegun dialogs) : Nests alone c dialogs (running .begin st)
  | continues {st : Stack} {f : Frame} {rest : List Frame} {activity : Activity}
      (hdialogs : st.dialogs = dialogs) (ho : st.Orderly) (hframes : st.frames = f :: rest)
      (hc : c = .continueTurn activity) (hrest : alone → ∀ g ∈ rest, g.HasBegun dialogs) :
      Nests alone c dialogs (running (.continueWith activity) st)
  | resumes {st : Stack} {f : Frame} {rest : List Frame} {input : Option TurnInput}
      (hdialogs : st.dialogs = dialogs) (ho : st.Orderly) (hframes : st.frames = f :: rest)
      (hall : alone → ∀ g ∈ f :: rest, g.HasBegun dialogs) :
      Nests alone c dialogs (running (.resume input) st)
  | halted {o : Except DialogError TurnStatus} {st : Stack}
      (hrest : alone → ∀ g ∈ st.frames.tail, g.HasBegun dialogs) :
      Nests alone c dialogs (halted o st)
  | aborted (st : Stack) : Nests alone c dialogs (aborted st)

variable {alone : Prop} {c : Stack.Call} {dialogs : DialogSet} {st : Stack} {f : Frame}
  {rest : List Frame}

theorem nests_begin (hdialogs : st.dialogs = dialogs) (ho : st.Orderly)
    (hall : alone → ∀ g ∈ st.frames, g.HasBegun dialogs) (dialog : String)
    (options : LaunchOptions) : Nests alone c dialogs (begin dialog options st) := by
  unfold begin
  cases hd : st.dialogs.find dialog with
  | error e => exact .halted fun ha g hg => hall ha g (List.mem_of_mem_tail hg)
  | ok d =>
    have hnoted : (st.note (.beginningDialog dialog st.nextFrame st.depth)).Orderly :=
      ho.congr rfl rfl rfl
    exact .begins hdialogs (hnoted.push hd options) rfl ⟨options, rfl⟩ hall

theorem nests_replace (hdialogs : st.dialogs = dialogs) (ho : st.Orderly)
    (hframes : st.frames = f :: rest) (hrest : alone → ∀ g ∈ rest, g.HasBegun dialogs)
    (dialog : String) (options : LaunchOptions) :
    Nests alone c dialogs (replace dialog options st) := by
  unfold replace
  rw [hframes]
  cases st.dialogs.find dialog with
  | error e => exact .halted (by rw [hframes]; exact hrest)
  | ok d =>
    let below := ({ st with frames := rest } : Stack).note (.replacingDialog f.dialog dialog)
    have hdialogs' : below.dialogs = dialogs := hdialogs
    have ho' : below.Orderly := (ho.tail hframes).congr rfl rfl rfl
    exact nests_begin hdialogs' ho' hrest dialog options

theorem nests_finish (hdialogs : st.dialogs = dialogs) (ho : st.Orderly)
    (hframes : st.frames = f :: rest) (hrest : alone → ∀ g ∈ rest, g.HasBegun dialogs)
    (result : Option DialogResult) : Nests alone c dialogs (finish result st) := by
  unfold finish
  rw [hframes]
  cases rest with
  | nil => exact .halted fun _ g hg => absurd hg List.not_mem_nil
  | cons parent below =>
    exact .resumes hdialogs ((ho.tail hframes).congr rfl rfl rfl) rfl hrest

theorem nests_stopped (hdialogs : st.dialogs = dialogs) (ho : st.Orderly)
    (hframes : st.frames = f :: rest) (hrest : alone → ∀ g ∈ rest, g.HasBegun dialogs)
    {d : Dialog} (hd : dialogs.find f.dialog = .ok d) (o : Except DialogError TurnStatus)
    {session : Session} {asked : Option Handover}
    (hbegun : ∀ dialog options, asked = some (.begin dialog options) →
      ∃ execute, d.HasBegun session execute) :
    Nests alone c dialogs (stopped f ((o, session), st, asked)) := by
  have hstored := ho.frames_store hframes session
  have ho' := ho.store f.id session
  have hdialogs' : (st.store f.id session).dialogs = dialogs := hdialogs
  have hhalted (o : Except DialogError TurnStatus) :
      Nests alone c dialogs (Flat.halted o (st.store f.id session)) :=
    .halted (by rw [hstored]; exact hrest)
  cases o with
  | error e => exact hhalted (.error e)
  | ok status =>
    cases asked with
    | none => exact hhalted (.ok status)
    | some asked =>
      cases asked with
      | begin dialog options =>
        -- the session that has run is below the new one now
        obtain ⟨execute, hexecute⟩ := hbegun dialog options rfl
        refine nests_begin hdialogs' ho' (fun ha => ?_) dialog options
        rw [hstored]
        exact List.forall_mem_cons.2 ⟨⟨d, execute, hd, hexecute⟩, hrest ha⟩
      | replace dialog options =>
        exact nests_replace hdialogs' ho' hstored hrest dialog options
      | finish result => exact nests_finish hdialogs' ho' hstored hrest result

/-- What a step comes to, for any task of the session on top. -/
theorem nests_step (hloaded : ∀ id d, dialogs.find id = .ok d → d.Loaded) {task : Task}
    (hdialogs : st.dialogs = dialogs) (ho : st.Orderly) (hframes : st.frames = f :: rest)
    (hrest : alone → ∀ g ∈ rest, g.HasBegun dialogs)
    (hfresh : task = .begin → f.session.resumeIndex = none) {t : Flat}
    (hnext : (running task st).next? = some t) : Nests alone c dialogs t := by
  obtain ⟨d, hd⟩ := ho.registered f (hframes ▸ List.mem_cons_self)
  have hd' : dialogs.find f.dialog = .ok d := hdialogs ▸ hd
  have hdialog := hloaded _ _ hd'
  simp only [next?, Stack.top?, hframes, List.head?_cons, hd, Option.some.injEq] at hnext
  subst hnext
  have habides : d.Abides (fun _ => True) (fun _ => True) (fun _ _ => True) (fun _ => True)
      ((task.on d).run.run f.session) :=
    hdialog.callbackFree.abides_starting hdialog.tidy hfresh
  rcases hplay : play ((task.on d).run.run f.session) (st, none) with
    _ | ⟨⟨o, session⟩, st', asked⟩
  · exact .aborted st
  have hspared := spared_play (task.yielding hdialog.callbackFree f.session) hplay
  refine nests_stopped (hspared.dialogs.trans hdialogs) (hspared.orderly ho)
    (hspared.frames.trans hframes) hrest hd' o fun dialog options hasked => ?_
  exact habides.hasBegun_of_play (hasked ▸ hplay)

/-- **A step of the flat machine keeps the invariant.** -/
theorem Nests.next (hloaded : ∀ id d, dialogs.find id = .ok d → d.Loaded) {t t' : Flat}
    (h : Nests alone c dialogs t) (hnext : t.next? = some t') : Nests alone c dialogs t' := by
  cases h with
  | begins hdialogs ho hframes hlaunched hrest =>
    obtain ⟨options, hsession⟩ := hlaunched
    exact nests_step hloaded hdialogs ho hframes hrest (fun _ => hsession ▸ rfl) hnext
  | continues hdialogs ho hframes _ hrest =>
    exact nests_step hloaded hdialogs ho hframes hrest (fun h => by cases h) hnext
  | resumes hdialogs ho hframes hall =>
    exact nests_step hloaded hdialogs ho hframes
      (fun ha g hg => hall ha g (List.mem_cons_of_mem _ hg)) (fun h => by cases h) hnext
  | halted | aborted => cases hnext

end Flat

namespace Stack

variable {alone : Prop} {c : Call} {st st' : Stack}

/-- All sessions that have another one above them stand where they have begun a dialog. -/
def Nested (st : Stack) : Prop := ∀ f ∈ st.frames.tail, f.HasBegun st.dialogs

/-- A call that starts a dialog on top of another one. -/
def Call.Interrupts (c : Call) (st : Stack) : Prop :=
  ∃ dialog options, c = .start dialog options ∧ st.frames ≠ []

theorem nests_opening (ho : st.Orderly) (hnested : alone → st.Nested)
    (hc : alone → ¬c.Interrupts st) {t : Flat} (ht : Flat.opening? c st = some t) :
    Flat.Nests alone c st.dialogs t := by
  cases c with
  | start dialog options =>
    obtain rfl := Option.some.inj ht
    refine Flat.nests_begin rfl ho (fun ha g hg => ?_) dialog options
    exact absurd ⟨dialog, options, rfl, List.ne_nil_of_mem hg⟩ (hc ha)
  | continueTurn activity =>
    obtain ⟨f, htop, rfl⟩ := Option.map_eq_some_iff.1 ht
    obtain ⟨rest, hframes⟩ := top?_eq_some_iff.1 htop
    refine .continues rfl ho hframes rfl fun ha g hg => hnested ha g ?_
    rw [hframes]
    exact hg
  | begin | replace | finish | cancelAll | send => cases ht

/-- **A turn leaves nested sessions nested**, also if it fails, unless it starts a dialog on top of
others. -/
theorem Quiescent.nested_of_returns (h : st.Quiescent) (hloaded : st.Loaded) (hc : c.IsTurn)
    (hnested : alone → st.Nested) (halone : alone → ¬c.Interrupts st)
    {outcome : Except DialogError (Option TurnStatus)} (hreturns : Returns c st outcome st') :
    alone → st'.Nested := by
  intro ha
  have hflat := (h.returns_iff_flat hloaded.callbackFree hc).1 hreturns
  rw [Nested, hreturns.dialogs_eq]
  unfold Flat.Returns at hflat
  cases ht : Flat.opening? c st with
  | none =>
    rw [ht] at hflat
    rw [hflat.2]
    exact hnested ha
  | some t =>
    rw [ht] at hflat
    obtain ⟨o, ⟨hlead, -⟩, -⟩ := hflat
    have hnests := hlead.invariant (nests_opening h.toOrderly hnested halone ht) fun _ _ hnests =>
      hnests.next hloaded
    cases hnests with
    | halted hrest => exact hrest ha

/-- What makes the session of a frame run: it has just been launched and begins, or it is given the
activity of the turn, or it is resumed because another one above it has ended. -/
inductive Cause (alone : Prop) (c : Call) (dialogs : DialogSet) (f : Frame) : Spot → Prop where
  | begin (hlaunched : ∃ options, f.session = .launch options) :
      Cause alone c dialogs f (.starting .begin)
  | activity {activity : Activity} (hc : c = .continueTurn activity) :
      Cause alone c dialogs f (.starting (.continueWith activity))
  | resume (input : Option TurnInput) (hbegun : alone → f.HasBegun dialogs) :
      Cause alone c dialogs f (.starting (.resume input))

/-- **Wherever a session is about to run**, there is a cause for it. -/
theorem Quiescent.exists_task (h : st.Quiescent) (hloaded : st.Loaded) (hc : c.IsTurn)
    (hnested : alone → st.Nested) (halone : alone → ¬c.Interrupts st) {m : Moment}
    (hm : Occurs c st m) {id : ℕ} {run : Dialog → SessionM TurnStatus}
    (hphase : m.phase = .entering id run) :
    ∃ (f : Frame) (task : Task), m.stack.top? = some f ∧ f.id = id ∧ run = task.on ∧
      Cause alone c st.dialogs f (.starting task) := by
  obtain ⟨m₀, hopen, hlead⟩ := hm
  rcases h.openings hc with ⟨m₁, t, m₂, hm₁, ht, hglide, hagrees⟩ | ⟨hnone, -⟩
  case inr =>
    rw [hnone] at hopen
    cases hopen
  obtain rfl := Option.some.inj (hopen.symm.trans hm₁)
  have hseen : m.entered? ≠ none := by
    rw [Moment.entered?, hphase]
    exact Option.some_ne_none _
  -- the engine shows that a session is about to run, so the flat machine is there as well
  obtain ⟨t', hlead', hfollows⟩ := Moment.refines.exists_of_leads hglide
    (follows_opening h hloaded.callbackFree hopen hglide hagrees) hlead hseen
  have hnests := hlead'.invariant (nests_opening h.toOrderly hnested halone ht) fun _ _ hnests =>
    hnests.next hloaded
  obtain ⟨hsound, -, hagrees'⟩ := hfollows
  cases hagrees' with
  | halted | aborted => cases hphase
  | @running stack K W hwait id' task =>
    obtain ⟨hnot, f, htop, rfl⟩ : id' ∉ stack.executing ∧ ∃ f, stack.top? = some f ∧ f.id = id' :=
      hsound.phase
    cases hphase
    obtain ⟨rest, hframes⟩ := top?_eq_some_iff.1 htop
    -- nothing is going to be written back for a session that does not run
    have hcalm : (stack.calm W).frames = f :: rest.map (Frame.written W) := by
      rw [frames_calm_cons hframes, written_of_not_mem (hwait.keys ▸ hnot)]
    refine ⟨f, task, htop, rfl, rfl, ?_⟩
    cases hnests with
    | begins _ _ hframes' hlaunched =>
      obtain ⟨rfl, -⟩ := List.cons.inj (hcalm.symm.trans hframes')
      exact .begin hlaunched
    | continues _ _ _ hactivity => exact .activity hactivity
    | resumes _ _ hframes' hall =>
      obtain ⟨rfl, -⟩ := List.cons.inj (hcalm.symm.trans hframes')
      exact .resume _ fun ha => hall ha f List.mem_cons_self

end Stack

end Parley

import Mathlib.Data.List.Chain
import Parley.Proofs.Conversation.Parking
import Parley.Proofs.Conversation.Visits

/-!
# Who began whom

Under way, every session that has another one above it stands where it was left in the visit that
began the other one (`Descends`), and the session on top stands where its task expects it
(`Underway`).  A visit keeps this up, whatever its script asks for (`Underway.exists_visit`), and so
do all visits of a turn (`Underway.lawful`).  Between turns the session on top awaits an answer
(`Settled`).
-/

namespace Parley

open Stepping

/-! ### What a script leaves alone -/

namespace Stack

/-- The sessions of a stack, their dialogs and the numbers still to come. -/
structure Spared (st st' : Stack) : Prop where
  frames : st'.frames = st.frames
  nextFrame : st'.nextFrame = st.nextFrame
  dialogs : st'.dialogs = st.dialogs

theorem Spared.orderly {st st' : Stack} (h : st.Spared st') (ho : st.Orderly) : st'.Orderly :=
  ho.congr h.frames h.nextFrame h.dialogs

theorem Orderly.frames_store {st : Stack} (h : st.Orderly) {f : Frame} {rest : List Frame}
    (hf : st.frames = f :: rest) (session : Session) :
    (st.store f.id session).frames = { f with session := session } :: rest := by
  have hasc := h.ascending
  rw [hf] at hasc
  have hrest : (rest.map fun g => if g.id = f.id then { g with session := session } else g) =
      rest := by
    refine (List.map_congr_left fun g hg => ?_).trans (List.map_id' rest)
    exact if_neg (Nat.ne_of_lt ((List.pairwise_cons.1 hasc).1 g hg))
  rw [Stack.store, hf, List.map_cons, if_pos rfl, hrest]

end Stack

/-- A script that yields once at most leaves all sessions alone while it runs. -/
theorem Flat.spared_play {α : Type} {final : α → Prop}
    {tree : HostM (Except DialogError α × Session)} (h : Yields final tree)
    {s s' : Stack × Option Handover} {y : Except DialogError α × Session}
    (hplay : play tree s = some (y, s')) : s.1.Spared s'.1 := by
  induction h generalizing s with
  | done value =>
    cases hplay
    exact ⟨rfl, rfl, rfl⟩
  | @plain r next hr _ ih =>
    have hrest := ih (answer r s).1 hplay
    refine ⟨hrest.frames.trans ?_, hrest.nextFrame.trans ?_, hrest.dialogs.trans ?_⟩ <;>
      cases r <;> first | rfl | exact hr.elim
  | begin dialog options h | replace dialog options h | finish result h =>
    simp only [play, answer, h.ok] at hplay
    cases hplay
    exact ⟨rfl, rfl, rfl⟩
  | abort => cases hplay

/-! ### Descent -/

section

variable (dialogs : DialogSet) (earlier : List Visit)

/-- A session was begun, or took the place of one that was begun, in a visit of another session, and
the latter has stood since where it began a dialog then. -/
structure BegunBy (child : ℕ) (parent : Frame) (w : Visit) (execute : Execute) : Prop where
  opener : opener? earlier child = some w
  id : w.frame.id = parent.id
  left : w.left = parent.session
  asked : w.asked = some (.begin execute.script (Dialog.launchOptions execute w.left))
  awaits : ∃ d, dialogs.find parent.dialog = .ok d ∧ d.AwaitsChild parent.session execute

/-- A session comes from the one below it. -/
def Descends (child parent : Frame) : Prop :=
  ∃ w execute, BegunBy dialogs earlier child.id parent w execute

end

section

variable {dialogs : DialogSet} {earlier : List Visit} {v : Visit}

theorem opener?_cons_of_ne {id : ℕ} (h : v.next ≠ id) :
    opener? (v :: earlier) id = opener? earlier id := by
  rw [opener?, if_neg h]

theorem opener?_cons_of_begin {dialog : String} {options : LaunchOptions}
    (h : v.asked = some (.begin dialog options)) : opener? (v :: earlier) v.next = some v := by
  rw [opener?, if_pos rfl, h]

theorem opener?_cons_of_replace {dialog : String} {options : LaunchOptions}
    (h : v.asked = some (.replace dialog options)) :
    opener? (v :: earlier) v.next = opener? earlier v.frame.id := by
  rw [opener?, if_pos rfl, h]

theorem BegunBy.of_opener? {earlier' : List Visit} {child child' : ℕ} {parent : Frame} {w : Visit}
    {execute : Execute} (h : BegunBy dialogs earlier child parent w execute)
    (ho : opener? earlier' child' = opener? earlier child) :
    BegunBy dialogs earlier' child' parent w execute :=
  ⟨ho.trans h.opener, h.id, h.left, h.asked, h.awaits⟩

/-- One more visit does not change where sessions come from that are there already. -/
theorem Descends.cons {frames : List Frame} (h : frames.IsChain (Descends dialogs earlier))
    (hfresh : ∀ f ∈ frames, f.id < v.next) : frames.IsChain (Descends dialogs (v :: earlier)) := by
  refine h.imp_of_mem_imp fun child parent hmem _ ⟨w, execute, hbegun⟩ => ⟨w, execute, ?_⟩
  exact hbegun.of_opener? (opener?_cons_of_ne (Nat.ne_of_gt (hfresh child hmem)))

end

/-! ### Laws -/

/-- What holds of a visit after others. -/
structure Visit.Lawful (dialogs : DialogSet) (earlier : List Visit) (v : Visit) : Prop where
  happens : v.Happens dialogs
  result : ∀ result, v.asked = some (.finish result) →
    result = some ⟨v.left.status, v.left.values⟩
  descends : ∀ parent rest, v.below = parent :: rest → Descends dialogs earlier v.frame parent
  kept : ∀ input, v.task = .resume input → ∃ d, dialogs.find v.frame.dialog = .ok d ∧
    v.left.values =
      d.keptAt ⟨v.frame.session.thread, v.frame.session.resumePoint⟩ input v.frame.session.values
  given : ∀ r, v.task.result? = some r → ∃ u before, earlier = u :: before ∧
    u.asked = some (.finish (some r)) ∧ u.below = v.frame :: v.below

/-- A result goes to the session below in the next visit. -/
def Visit.Gives (v : Visit) (later : List Visit) : Prop :=
  ∀ r, v.asked = some (.finish (some r)) → v.below ≠ [] → ∃ v' later', later = v' :: later' ∧
    v'.task = .resume (some (.result r)) ∧ v'.frame :: v'.below = v.below

/-- What holds on the flat machine when a session is about to run. -/
structure Underway (earlier : List Visit) (task : Task) (st : Stack) : Prop extends
    st.Orderly where
  chain : st.frames.IsChain (Descends st.dialogs earlier)
  ready : ∃ f rest d, st.frames = f :: rest ∧ st.dialogs.find f.dialog = .ok d ∧
    d.Ready task f.session
  given : ∀ r, task.result? = some r → ∃ u before, earlier = u :: before ∧
    u.asked = some (.finish (some r)) ∧ u.below = st.frames

/-- What holds between turns. -/
structure Settled (earlier : List Visit) (st : Stack) : Prop extends st.Orderly where
  chain : st.frames.IsChain (Descends st.dialogs earlier)
  top : ∀ f, st.top? = some f → ∃ d, st.dialogs.find f.dialog = .ok d ∧ d.AwaitsAnswer f.session

/-- The flat machine has come to an end with an error, or is stuck. -/
inductive Flat.Failed : Flat → Prop where
  | error (e : DialogError) (st : Stack) : Failed (.halted (.error e) st)
  | aborted (st : Stack) : Failed (.aborted st)

/-- What a visit that does not fail comes to. -/
inductive Visit.Proceeds (dialogs : DialogSet) (earlier : List Visit) (v : Visit) :
    Flat → Prop where
  | rests (status : TurnStatus) {st : Stack} (hdialogs : st.dialogs = dialogs)
      (hlast : ∀ r, v.asked = some (.finish (some r)) → v.below = [])
      (h : Settled (v :: earlier) st) : v.Proceeds dialogs earlier (.halted (.ok status) st)
  | goes {task : Task} {st : Stack} (hdialogs : st.dialogs = dialogs)
      (hnext : ∀ r, v.asked = some (.finish (some r)) →
        task = .resume (some (.result r)) ∧ st.frames = v.below)
      (h : Underway (v :: earlier) task st) : v.Proceeds dialogs earlier (.running task st)

/-! ### A visit -/

section

variable {dialogs : DialogSet} {earlier : List Visit} {v : Visit} {st : Stack}

/-- A script has stopped: its session is stored, on the stack on which it ran. -/
structure Visit.Leaves (dialogs : DialogSet) (earlier : List Visit) (v : Visit) (st : Stack) :
    Prop extends st.Orderly where
  dialogs : st.dialogs = dialogs
  nextFrame : st.nextFrame = v.next
  frames : st.frames = { v.frame with session := v.left } :: v.below
  chain : st.frames.IsChain (Descends st.dialogs earlier)

theorem Visit.proceeds_begin {dialog : String} {options : LaunchOptions} (ho : st.Orderly)
    (hdialogs : st.dialogs = dialogs) (hnext : st.nextFrame = v.next)
    (hasked : ∀ r, v.asked ≠ some (.finish (some r)))
    (hchain : st.frames.IsChain (Descends st.dialogs (v :: earlier)))
    (hbegun : ∀ parent ∈ st.frames.head?, ∃ w execute,
      BegunBy st.dialogs (v :: earlier) v.next parent w execute) :
    (Flat.begin dialog options st).Failed ∨
      v.Proceeds dialogs earlier (Flat.begin dialog options st) := by
  unfold Flat.begin
  cases hd : st.dialogs.find dialog with
  | error e => exact .inl (.error e st)
  | ok d =>
    right
    have hnoted : (st.note (.beginningDialog dialog st.nextFrame st.depth)).Orderly :=
      ho.congr rfl rfl rfl
    refine .goes hdialogs (fun r hr => absurd hr (hasked r)) ⟨hnoted.push hd options, ?_, ?_, ?_⟩
    · exact .cons hchain fun parent hparent => hnext ▸ hbegun parent hparent
    · exact ⟨_, _, d, rfl, hd, rfl⟩
    · exact fun r hr => by cases hr

namespace Visit.Leaves

variable (h : v.Leaves dialogs earlier st)

include h

theorem chain_cons : st.frames.IsChain (Descends st.dialogs (v :: earlier)) :=
  Descends.cons h.chain fun f hf => h.nextFrame ▸ h.fresh f hf

theorem chain_below : v.below.IsChain (Descends st.dialogs (v :: earlier)) := by
  have hchain := h.chain_cons
  rw [h.frames] at hchain
  exact hchain.tail

theorem rests {d : Dialog} (hd : dialogs.find v.frame.dialog = .ok d)
    (hasked : v.asked = none) (hparks : d.AwaitsAnswer v.left) (status : TurnStatus) :
    v.Proceeds dialogs earlier (.halted (.ok status) st) := by
  refine .rests status h.dialogs (fun r hr => ?_) ⟨h.toOrderly, h.chain_cons, fun f hf => ?_⟩
  · rw [hasked] at hr
    cases hr
  · rw [Stack.top?, h.frames, List.head?_cons] at hf
    obtain rfl := Option.some.inj hf
    exact ⟨d, h.dialogs ▸ hd, hparks⟩

theorem proceeds_replace {dialog : String} {options : LaunchOptions}
    (hasked : v.asked = some (.replace dialog options)) :
    (Flat.replace dialog options st).Failed ∨
      v.Proceeds dialogs earlier (Flat.replace dialog options st) := by
  unfold Flat.replace
  rw [h.frames]
  cases st.dialogs.find dialog with
  | error e => exact .inl (.error e st)
  | ok d =>
    have ho : (({ st with frames := v.below } : Stack).note
        (.replacingDialog v.frame.dialog dialog)).Orderly :=
      (h.toOrderly.tail h.frames).congr rfl rfl rfl
    refine proceeds_begin ho h.dialogs h.nextFrame (fun r hr => ?_) h.chain_below ?_
    · rw [hasked] at hr
      cases hr
    · -- the new session takes the place of the one on top
      intro parent hparent
      have hchain := h.chain
      rw [h.frames, List.isChain_cons] at hchain
      obtain ⟨w, execute, hbegun⟩ := hchain.1 parent hparent
      exact ⟨w, execute, hbegun.of_opener? (opener?_cons_of_replace hasked)⟩

theorem proceeds_begin_above {dialog : String} {options : LaunchOptions} {d : Dialog}
    {execute : Execute} (hd : dialogs.find v.frame.dialog = .ok d)
    (hasked : v.asked = some (.begin dialog options)) (hdialog : dialog = execute.script)
    (hoptions : options = Dialog.launchOptions execute v.left)
    (hawaits : d.AwaitsChild v.left execute) :
    (Flat.begin dialog options st).Failed ∨
      v.Proceeds dialogs earlier (Flat.begin dialog options st) := by
  refine proceeds_begin h.toOrderly h.dialogs h.nextFrame (fun r hr => ?_) h.chain_cons ?_
  · rw [hasked] at hr
    cases hr
  · intro parent hparent
    rw [h.frames] at hparent
    obtain rfl := Option.some.inj hparent
    refine ⟨v, execute, opener?_cons_of_begin hasked, rfl, rfl, ?_, d, h.dialogs ▸ hd, hawaits⟩
    rw [hasked, hdialog, hoptions]

theorem proceeds_finish {result : Option DialogResult}
    (hasked : v.asked = some (.finish result)) :
    v.Proceeds dialogs earlier (Flat.finish result st) := by
  have hresult (r : DialogResult) (hr : v.asked = some (.finish (some r))) : result = some r := by
    rw [hasked] at hr
    exact Handover.finish.inj (Option.some.inj hr)
  have ho := h.toOrderly.tail h.frames
  unfold Flat.finish
  rw [h.frames]
  cases hbelow : v.below with
  | nil =>
    refine .rests _ h.dialogs (fun _ _ => hbelow) ⟨?_, .nil, fun f hf => by cases hf⟩
    exact (hbelow ▸ ho).congr rfl rfl rfl
  | cons parent rest =>
    have hchain := h.chain
    rw [h.frames, List.isChain_cons] at hchain
    obtain ⟨w, execute, hbegun⟩ := hchain.1 parent (by rw [hbelow]; rfl)
    obtain ⟨d, hd, hawaits⟩ := hbegun.awaits
    have hbelows := h.chain_below
    rw [hbelow] at ho hbelows
    refine .goes h.dialogs (fun r hr => ⟨by rw [hresult r hr]; rfl, hbelow.symm⟩)
      ⟨ho.congr rfl rfl rfl, hbelows, ⟨parent, rest, d, rfl, hd, execute, hawaits⟩, fun r hr => ?_⟩
    refine ⟨v, earlier, rfl, ?_, hbelow⟩
    cases result with
    | none => cases hr
    | some r' =>
      obtain rfl := Option.some.inj hr
      exact hasked

theorem proceeds_handOver {d : Dialog} {asked : Handover}
    (hd : dialogs.find v.frame.dialog = .ok d) (hasked : v.asked = some asked)
    (hparks : d.Parks ⟨v.left, some asked⟩) :
    (Flat.handOver asked st).Failed ∨ v.Proceeds dialogs earlier (Flat.handOver asked st) := by
  cases asked with
  | begin dialog options =>
    obtain ⟨execute, hdialog, hoptions, hawaits⟩ := hparks
    exact h.proceeds_begin_above hd hasked hdialog hoptions hawaits
  | replace dialog options => exact h.proceeds_replace hasked
  | finish result => exact .inr (h.proceeds_finish hasked)

end Visit.Leaves

theorem Visit.proceeds_stopped {status : TurnStatus} {st' : Stack} {d : Dialog}
    (h : v.Leaves dialogs earlier (st'.store v.frame.id v.left))
    (hd : dialogs.find v.frame.dialog = .ok d) (hparks : d.Parks ⟨v.left, v.asked⟩) :
    (Flat.stopped v.frame ((.ok status, v.left), st', v.asked)).Failed ∨
      v.Proceeds dialogs earlier (Flat.stopped v.frame ((.ok status, v.left), st', v.asked)) := by
  cases hasked : v.asked with
  | none =>
    rw [hasked] at hparks
    exact .inr (h.rests hd hasked hparks status)
  | some asked =>
    rw [hasked] at hparks
    exact h.proceeds_handOver hd hasked hparks

end

/-- All dialogs of a stack come from texts. -/
def Stack.Loaded (st : Stack) : Prop := ∀ id d, st.dialogs.find id = .ok d → d.Loaded

theorem Stack.Loaded.callbackFree {st : Stack} (h : st.Loaded) : st.CallbackFree :=
  fun id d hd => (h id d hd).callbackFree

namespace Underway

variable {earlier : List Visit} {task : Task} {st : Stack}

theorem leaves (h : Underway earlier task st) {v : Visit} {st' : Stack}
    (hframes : st.frames = v.frame :: v.below) (hnext : v.next = st.nextFrame)
    (hspared : st.Spared st') :
    v.Leaves st.dialogs earlier (st'.store v.frame.id v.left) := by
  have ho := hspared.orderly h.toOrderly
  have hstored := ho.frames_store (hspared.frames.trans hframes) v.left
  refine ⟨ho.store _ _, hspared.dialogs, hspared.nextFrame.trans hnext.symm, hstored, ?_⟩
  have hchain := h.chain
  have hdialogs : (st'.store v.frame.id v.left).dialogs = st.dialogs := hspared.dialogs
  rw [hframes, List.isChain_cons] at hchain
  rw [hstored, hdialogs]
  -- where a session comes from is told by its number
  exact .cons hchain.2 hchain.1

theorem lawful (h : Underway earlier task st) {v : Visit} {d : Dialog}
    (hframes : st.frames = v.frame :: v.below) (htask : v.task = task)
    (hd : st.dialogs.find v.frame.dialog = .ok d) (hhappens : v.Happens st.dialogs)
    (hparks : d.Parks ⟨v.left, v.asked⟩)
    (hkept : ∀ input, v.task = .resume input → v.left.values = d.keptAt
      ⟨v.frame.session.thread, v.frame.session.resumePoint⟩ input v.frame.session.values) :
    v.Lawful st.dialogs earlier where
  happens := hhappens
  result r hr := by
    rw [hr] at hparks
    exact hparks
  descends parent rest hbelow := by
    have hchain := h.chain
    rw [hframes, hbelow] at hchain
    exact hchain.rel
  kept input hi := ⟨d, hd, hkept input hi⟩
  given r hr := hframes ▸ h.given r (htask ▸ hr)

/-- **A visit keeps to the laws** if it does not fail, and comes to where the next visit does, or to
where the next turn may begin. -/
theorem exists_visit (h : Underway earlier task st) (hloaded : st.Loaded) :
    ∃ v t, Flat.visit? (.running task st) = some v ∧ Flat.next? (.running task st) = some t ∧
      v.task = task ∧ v.frame :: v.below = st.frames ∧
        (t.Failed ∨ v.Lawful st.dialogs earlier ∧ v.Proceeds st.dialogs earlier t) := by
  obtain ⟨f, rest, d, hframes, hd, hready⟩ := h.ready
  have hfree := (hloaded _ d hd).callbackFree
  have hpost := hfree.achieves_task (hloaded _ d hd).tidy hready ⟨f.session, none⟩ st
    (hframes ▸ List.cons_ne_nil f rest) ⟨rfl, rfl⟩
  rcases hwork : Flat.work (task.on d) ⟨f.session, none⟩ st with _ | ⟨o, w, st'⟩
  · have hplay := Flat.play_eq_none_of_work hwork
    refine ⟨⟨f, rest, task, f.session, none, st.nextFrame⟩, .aborted st, ?_, ?_, rfl, hframes.symm,
      .inl (.aborted st)⟩
    · simp only [Flat.visit?, hframes, hd, hwork]
    · simp only [Flat.next?, Stack.top?, hframes, List.head?_cons, hd, hplay, Flat.played]
  have hplay := Flat.play_eq_of_work hwork
  have hspared := Flat.spared_play (task.yielding hfree f.session) hplay
  let v : Visit := ⟨f, rest, task, w.session, w.asked, st.nextFrame⟩
  refine ⟨v, Flat.stopped f ((o, w.session), st', w.asked), ?_, ?_, rfl, hframes.symm, ?_⟩
  · simp only [Flat.visit?, hframes, hd, hwork, v]
  · simp only [Flat.next?, Stack.top?, hframes, List.head?_cons, hd, hplay, Flat.played]
  · cases o with
    | error e => exact .inl (.error e _)
    | ok status =>
      obtain ⟨⟨hparks, hkept⟩, -⟩ := hpost status w st' hwork
      have hleaves : v.Leaves st.dialogs earlier _ := h.leaves hframes rfl hspared
      refine (v.proceeds_stopped hleaves hd hparks).imp_right fun ht => ⟨?_, ht⟩
      exact h.lawful hframes rfl hd ⟨d, status, st, st', hd, hframes, rfl, hwork⟩ hparks hkept

/-- After a visit that gives a result, the next visit is to resume the session below. -/
theorem gives_of_shows (h : Underway earlier task st) (hloaded : st.Loaded) {v : Visit}
    {later : List Visit} {t : Flat}
    (hshows : Shows Flat.next? Flat.visit? (.running task st) later t)
    (hnext : ∀ r, v.asked = some (.finish (some r)) →
      task = .resume (some (.result r)) ∧ st.frames = v.below) : v.Gives later := by
  intro r hr _
  obtain ⟨htask, hbelow⟩ := hnext r hr
  obtain ⟨v', -, hseen, -, htask', hframes, -⟩ := h.exists_visit hloaded
  obtain ⟨later', rfl⟩ := hshows.exists_cons hseen
  exact ⟨v', later', rfl, htask'.trans htask, hframes.trans hbelow⟩

/-- **All visits of a turn keep to the laws**, and the next turn may begin where the last one comes
to. -/
theorem lawful_of_shows {t t' : Flat} {visits : List Visit} {status : TurnStatus} {st' : Stack}
    (hshows : Shows Flat.next? Flat.visit? t visits t') (ht : t = .running task st)
    (ht' : t' = .halted (.ok status) st') (h : Underway earlier task st) (hloaded : st.Loaded) :
    st'.dialogs = st.dialogs ∧ Settled (visits.reverse ++ earlier) st' ∧
      ∀ pre v post, visits = pre ++ v :: post →
        v.Lawful st.dialogs (pre.reverse ++ earlier) ∧ v.Gives post := by
  induction hshows generalizing earlier task st with
  | nil _ hend =>
    obtain ⟨-, t₁, -, hnext, -⟩ := h.exists_visit hloaded
    rw [ht, hnext] at hend
    cases hend
  | skip hseen _ _ =>
    obtain ⟨v, -, hvisit, -⟩ := h.exists_visit hloaded
    rw [ht, hvisit] at hseen
    cases hseen
  | @cons _ t₁ _ w ws hseen hstep hrest ih =>
    obtain ⟨v, t₂, hvisit, hnext, -, -, hcases⟩ := h.exists_visit hloaded
    rw [ht, hvisit] at hseen
    rw [ht, hnext] at hstep
    obtain rfl := Option.some.inj hseen
    obtain rfl := Option.some.inj hstep
    rcases hcases with hfailed | ⟨hlawful, hproceeds⟩
    · cases hfailed <;> obtain ⟨rfl, -⟩ := hrest.of_end rfl <;> cases ht'
    · cases hproceeds with
      | @rests status₂ st₂ hdialogs hlast hsettled =>
        obtain ⟨rfl, rfl⟩ := hrest.of_end rfl
        cases ht'
        refine ⟨hdialogs, hsettled, fun pre v' post hsplit => ?_⟩
        cases pre with
        | nil =>
          obtain ⟨rfl, -⟩ := List.cons.inj hsplit
          exact ⟨hlawful, fun r hr hne => absurd (hlast r hr) hne⟩
        | cons w' pre => simp at hsplit
      | @goes task₂ st₂ hdialogs hgives hunderway =>
        have hloaded₂ : st₂.Loaded := fun id d hd => hloaded id d (hdialogs ▸ hd)
        obtain ⟨hdialogs', hsettled, hlaws⟩ := ih rfl ht' hunderway hloaded₂
        rw [hdialogs] at hdialogs' hlaws
        refine ⟨hdialogs', by simpa using hsettled, fun pre v' post hsplit => ?_⟩
        cases pre with
        | nil =>
          obtain ⟨rfl, rfl⟩ := List.cons.inj hsplit
          exact ⟨hlawful, hunderway.gives_of_shows hloaded₂ hrest hgives⟩
        | cons w' pre =>
          obtain ⟨rfl, hsplit'⟩ := List.cons.inj hsplit
          simpa using hlaws pre v' post hsplit'

end Underway

/-! ### Conversations -/

theorem Visit.Gives.append {v : Visit} {later : List Visit} (h : v.Gives later)
    (more : List Visit) : v.Gives (later ++ more) := by
  intro r hr hne
  obtain ⟨v', later', rfl, hv'⟩ := h r hr hne
  exact ⟨v', later' ++ more, rfl, hv'⟩

namespace Stack

variable {st st' : Stack} {visits : List Visit}

theorem Returns.dialogs_eq {c : Call} {outcome : Except DialogError (Option TurnStatus)}
    (h : Returns c st outcome st') : st'.dialogs = st.dialogs := by
  cases hopen : c.opening? st with
  | some m =>
    obtain ⟨o, ⟨hlead, -⟩, -⟩ := (returns_iff_ends hopen).1 h
    exact (Moment.dialogs_leads hlead).trans (dialogs_opening hopen)
  | none =>
    rcases (returns_of_opening?_eq_none hopen).1 h with
      ⟨-, -, -, rfl⟩ | ⟨-, -, rfl⟩ | ⟨-, -, -, rfl⟩ <;> rfl

theorem lawful_of_start {dialog : String} {options : LaunchOptions} (h : st.Quiescent)
    (hempty : st.frames = []) (hloaded : st.Loaded)
    (hmakes : Flat.Makes (.start dialog options) st visits st') :
    Settled visits.reverse st' ∧
      ∀ pre v post, visits = pre ++ v :: post → v.Lawful st.dialogs pre.reverse ∧ v.Gives post := by
  obtain ⟨status, hshows⟩ := hmakes
  have hnoted : (st.note (.beginningDialog dialog st.nextFrame st.depth)).Orderly :=
    h.toOrderly.congr rfl rfl rfl
  unfold Flat.begin at hshows
  cases hd : st.dialogs.find dialog with
  | error e =>
    rw [hd] at hshows
    cases (hshows.of_end rfl).1
  | ok d =>
    rw [hd] at hshows
    have hunderway : Underway [] .begin
        ((st.note (.beginningDialog dialog st.nextFrame st.depth)).push dialog options) := by
      refine ⟨hnoted.push hd options, ?_, ⟨_, _, d, rfl, hd, rfl⟩, fun r hr => by cases hr⟩
      have hframes : (st.note (.beginningDialog dialog st.nextFrame st.depth)).frames = [] := hempty
      rw [push, hframes]
      exact .singleton _
    have hlaws := hunderway.lawful_of_shows hshows rfl rfl hloaded
    simp only [List.append_nil] at hlaws
    exact hlaws.2

theorem lawful_of_turn {activity : Activity} {before : List Visit} (h : Settled before.reverse st)
    (hloaded : st.Loaded) (hmakes : Flat.Makes (.continueTurn activity) st visits st') :
    Settled (visits.reverse ++ before.reverse) st' ∧
      ∀ pre v post, visits = pre ++ v :: post →
        v.Lawful st.dialogs (pre.reverse ++ before.reverse) ∧ v.Gives post := by
  cases htop : st.top? with
  | none =>
    simp only [Flat.Makes, Flat.opening?, htop, Option.map_none] at hmakes
    obtain ⟨rfl, rfl⟩ := hmakes
    exact ⟨h, fun pre v post hsplit => by simp at hsplit⟩
  | some f =>
    simp only [Flat.Makes, Flat.opening?, htop, Option.map_some] at hmakes
    obtain ⟨status, hshows⟩ := hmakes
    obtain ⟨rest, hframes⟩ := top?_eq_some_iff.1 htop
    obtain ⟨d, hd, hawaits⟩ := h.top f htop
    have hunderway : Underway before.reverse (.continueWith activity) st :=
      ⟨h.toOrderly, h.chain, ⟨f, rest, d, hframes, hd, hawaits⟩, fun r hr => by cases hr⟩
    exact (hunderway.lawful_of_shows hshows rfl rfl hloaded).2

/-- **The visits of a conversation keep to the laws**, and between turns the session on top awaits
an answer. -/
theorem Conversation.exists_visits {entries : List Entry} (h : st.Conversation entries)
    (hloaded : st.Loaded) :
    ∃ visits, entries = visits.map Visit.entry ∧ Settled visits.reverse st ∧
      ∀ pre v post, visits = pre ++ v :: post →
        v.Lawful st.dialogs pre.reverse ∧ v.Gives post := by
  induction h with
  | @start st st' dialog options status entries hreachable hempty hreturns henters =>
    have hc : (Call.start dialog options).IsTurn := trivial
    have hdialogs := hreturns.dialogs_eq
    have hloaded' : st.Loaded := fun id d hd => hloaded id d (hdialogs ▸ hd)
    obtain ⟨visits, rfl, hmakes⟩ := hreachable.quiescent.exists_visits hloaded'.callbackFree hc
      hreturns henters
    rw [hdialogs]
    exact ⟨visits, rfl, lawful_of_start hreachable.quiescent hempty hloaded' hmakes⟩
  | @turn st st' activity status entries entries' h hreturns henters ih =>
    have hc : (Call.continueTurn activity).IsTurn := trivial
    have hdialogs := hreturns.dialogs_eq
    have hloaded' : st.Loaded := fun id d hd => hloaded id d (hdialogs ▸ hd)
    obtain ⟨visits, rfl, hsettled, hlaws⟩ := ih hloaded'
    obtain ⟨visits', rfl, hmakes⟩ := h.reachable.quiescent.exists_visits hloaded'.callbackFree
      hc hreturns henters
    obtain ⟨hsettled', hlaws'⟩ := lawful_of_turn hsettled hloaded' hmakes
    rw [hdialogs]
    refine ⟨visits ++ visits', (List.map_append ..).symm, by rwa [List.reverse_append], ?_⟩
    intro pre v post hsplit
    rcases List.append_eq_append_iff.1 hsplit with ⟨pre', rfl, hsplit'⟩ | ⟨post', hsplit', hrest⟩
    · rw [List.reverse_append]
      exact hlaws' pre' v post hsplit'
    · cases post' with
      | nil =>
        obtain rfl : visits = pre := hsplit'.trans (List.append_nil pre)
        exact hlaws' [] v post hrest.symm
      | cons v' post' =>
        obtain ⟨rfl, rfl⟩ := List.cons.inj hrest
        obtain ⟨hlawful, hgives⟩ := hlaws pre v post' hsplit'
        exact ⟨hlawful, hgives.append _⟩
  | drain _ ih =>
    obtain ⟨visits, hentries, hsettled, hlaws⟩ := ih hloaded
    exact ⟨visits, hentries, ⟨hsettled.toOrderly.congr rfl rfl rfl, hsettled.chain, hsettled.top⟩,
      hlaws⟩

end Stack

end Parley

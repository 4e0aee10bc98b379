import Parley.Proofs.Conversation.Parked

/-!
# Turns without end

A run has a budget of passes, and a callback makes only so many requests.  So between two sessions
that are entered, and after the last one, the engine takes only so many steps
(`Moment.proceeds`), and a call in which no run is aborted returns exactly if it enters only so many
sessions (`Stack.returns_iff_bounded`).

Nothing bounds how many sessions a call enters.  Each of their runs has a budget of its own, so a
dialog that begins another one which ends at once, and then repeats the line, never comes to the end
of a turn (`Stack.rally_never_returns`).
-/

namespace Parley

open Stepping

/-- Where a session is about to run, or where the engine has an answer already. -/
def Phase.IsOpening : Phase → Prop
  | .entering _ _ | .answering _ => True
  | .running .. | .stopped _ _ => False

namespace Stack

theorem isOpening_beginning (dialog : String) (options : LaunchOptions) (st : Stack) :
    (st.beginning dialog options).2.IsOpening := by
  unfold beginning
  split <;> trivial

theorem isOpening_replacing (dialog : String) (options : LaunchOptions) (st : Stack) :
    (st.replacing dialog options).2.IsOpening := by
  unfold replacing
  split
  · trivial
  · split
    · exact isOpening_beginning dialog options st
    · exact isOpening_beginning dialog options _

theorem isOpening_finishing (result : Option DialogResult) (st : Stack) :
    (st.finishing result).2.IsOpening := by
  unfold finishing
  split
  · trivial
  · split
    · trivial
    · split <;> trivial

end Stack

namespace Moment

/-- The engine comes to where a session is about to run, or to the end of the call, or a run is
aborted. -/
def Proceeds (m : Moment) : Prop :=
  ∃ m', m.Glides m' ∧ (m'.next? = none ∨ m'.entered?.isSome)

theorem Proceeds.head {m m₁ : Moment} (hseen : m.entered? = none) (hstep : m.next? = some m₁)
    (h : m₁.Proceeds) : m.Proceeds := by
  obtain ⟨m', hglide, hm'⟩ := h
  exact ⟨m', .head hseen hstep hglide, hm'⟩

section

variable {K : List Suspended}

theorem proceeds_entering (st : Stack) (id : ℕ) (task : Dialog → SessionM TurnStatus) :
    Proceeds ⟨st, .entering id task, K⟩ := ⟨_, .refl _, .inr rfl⟩

/-- A session that has stopped is resumed, or the runs that wait are answered. -/
theorem proceeds_stopped (hK : ∀ st o, Proceeds ⟨st, .answering o, K⟩) (st : Stack) (id : ℕ)
    (status : TurnStatus) : Proceeds ⟨st, .stopped id status, K⟩ := by
  cases hp : st.pending.lookup id with
  | none => exact .head rfl (next?_stopped_of_lookup_eq_none hp) (hK _ _)
  | some input =>
    by_cases htop : ((st.undefer id).top?.map Frame.id) = some id
    · exact .head rfl (next?_stopped_of_top hp htop) (proceeds_entering _ _ _)
    · exact .head rfl (next?_stopped_of_not_top hp htop) (hK _ _)

/-- A run that waits for other sessions is answered at once, or another session is entered. -/
theorem proceeds_opened {opened : Stack × Phase} (hopening : opened.2.IsOpening) {s : Suspended}
    (h : ∀ st o, Proceeds ⟨st, .running s.id s.taken (s.next o), K⟩) :
    Proceeds ⟨opened.1, opened.2, s :: K⟩ := by
  obtain ⟨st, phase⟩ := opened
  cases phase with
  | entering id task => exact proceeds_entering _ _ _
  | answering o => exact .head rfl (next?_arrived_cons s K (o, st)) (h st o)
  | running | stopped => exact hopening.elim

/-- The induction is on what is left of the run, which gets less whatever it is answered. -/
theorem proceeds_running (hK : ∀ st o, Proceeds ⟨st, .answering o, K⟩) (tree : Remainder)
    (st : Stack) (id : ℕ) (taken : Session) : Proceeds ⟨st, .running id taken tree, K⟩ := by
  induction tree generalizing st with
  | done value =>
    refine .head rfl (show next? _ = some (finished _ id value.1 value.2) from rfl) ?_
    obtain ⟨o, session⟩ := value
    cases o with
    | ok status => exact proceeds_stopped hK _ _ _
    | error e => exact hK _ _
  | ask r next ih =>
    cases r with
    | send message => exact .head rfl rfl (ih _ _)
    | active => exact .head rfl rfl (ih _ _)
    | note event => exact .head rfl rfl (ih _ _)
    | seed => exact .head rfl rfl (ih _ _)
    | cancelAll => exact .head rfl rfl (ih _ _)
    | begin dialog options =>
      exact .head rfl rfl
        (proceeds_opened (Stack.isOpening_beginning dialog options st) fun st o => ih o st)
    | replace dialog options =>
      exact .head rfl rfl
        (proceeds_opened (Stack.isOpening_replacing dialog options st) fun st o => ih o st)
    | finish result =>
      exact .head rfl rfl
        (proceeds_opened (Stack.isOpening_finishing result st) fun st o => ih o st)
  | abort => exact ⟨_, .refl _, .inl rfl⟩

end

theorem proceeds_answering (K : List Suspended) (st : Stack)
    (o : Except DialogError TurnStatus) : Proceeds ⟨st, .answering o, K⟩ := by
  induction K generalizing st o with
  | nil => exact ⟨_, .refl _, .inl rfl⟩
  | cons s K ih =>
    exact .head rfl (next?_arrived_cons s K (o, st)) (proceeds_running ih (s.next o) _ _ _)

/-- **From every moment the engine comes to where a session is about to run, or gets no
further.** -/
theorem proceeds (m : Moment) : m.Proceeds := by
  obtain ⟨st, phase, K⟩ := m
  cases phase with
  | entering id task => exact proceeds_entering _ _ _
  | running id taken tree => exact proceeds_running (proceeds_answering K) tree _ _ _
  | stopped id status => exact proceeds_stopped (proceeds_answering K) _ _ _
  | answering o => exact proceeds_answering K st o

/-- A call gets no further where an outcome has arrived for which nobody waits, and where a run has
been aborted. -/
theorem exists_eq_arrived_or_isAborted {m : Moment} (h : m.next? = none) :
    (∃ x, m = arrived [] x) ∨ m.IsAborted := by
  obtain ⟨st, phase, K⟩ := m
  cases phase with
  | entering id task =>
    simp only [next?] at h
    split at h
    · cases h
    · split at h <;> cases h
  | running id taken tree =>
    cases tree with
    | done | ask => cases h
    | abort => exact .inr ⟨id, taken, rfl⟩
  | stopped id status =>
    simp only [next?] at h
    split at h
    · cases h
    · split at h <;> cases h
  | answering o =>
    cases K with
    | nil => exact .inl ⟨(o, st), rfl⟩
    | cons s K => cases h

end Moment

namespace Stack

/-- The sessions that a call enters within a number of steps, with what they are to do. -/
def Call.enters (c : Call) (steps : ℕ) (st : Stack) :
    List (ℕ × (Dialog → SessionM TurnStatus)) :=
  match c.opening? st with
  | some m => sights Moment.next? Moment.entered? steps m
  | none => []

theorem exists_returns_of_opening?_eq_none {c : Call} {st : Stack} (h : c.opening? st = none) :
    ∃ outcome st', Returns c st outcome st' := by
  cases c with
  | start | begin | replace | finish => cases h
  | continueTurn activity =>
    exact ⟨_, _, (returns_of_opening?_eq_none h).2 (.inl ⟨activity, rfl, rfl, rfl⟩)⟩
  | cancelAll => exact ⟨_, _, (returns_of_opening?_eq_none h).2 (.inr (.inl ⟨rfl, rfl, rfl⟩))⟩
  | send message =>
    exact ⟨_, _, (returns_of_opening?_eq_none h).2 (.inr (.inr ⟨message, rfl, rfl, rfl⟩))⟩

/-- **A call returns exactly if it enters only so many sessions** and no run is aborted in it,
whatever the dialogs and their callbacks are. -/
theorem returns_iff_bounded (c : Call) (st : Stack) :
    (∃ outcome st', Returns c st outcome st') ↔
      (∃ b, ∀ steps, (c.enters steps st).length ≤ b) ∧ ¬Aborts c st := by
  unfold Call.enters
  cases hopen : c.opening? st with
  | none =>
    refine ⟨fun _ => ⟨⟨0, fun _ => Nat.le_refl 0⟩, ?_⟩,
      fun _ => exists_returns_of_opening?_eq_none hopen⟩
    rintro ⟨_, ⟨_, hm, -⟩, -⟩
    cases hopen.symm.trans hm
  | some m =>
    dsimp only
    rw [← exists_ends_iff_bounded Moment.proceeds m]
    constructor
    · rintro ⟨outcome, st', h⟩
      obtain ⟨o, hends, -⟩ := (returns_iff_ends hopen).1 h
      exact ⟨⟨_, hends⟩, fun haborts => haborts.not_returns ⟨outcome, st', h⟩⟩
    · rintro ⟨⟨m', hends⟩, haborts⟩
      rcases Moment.exists_eq_arrived_or_isAborted hends.2 with ⟨⟨o, st'⟩, rfl⟩ | haborted
      · exact ⟨_, st', (returns_iff_ends hopen).2 ⟨o, hends, rfl⟩⟩
      · exact absurd ⟨m', ⟨m, hopen, hends.1⟩, haborted⟩ haborts

end Stack

/-! ### A rally -/

namespace Dialog

/-- A dialog with one thread, on which there are only actions. -/
def acting (id : String) (actions : List Action) : Dialog :=
  { id := id
    script := ⟨[(defaultThread, actions.map .action)]⟩
    options := { seed := some 7 } }

/-- Whether lines are actions, and which. -/
def areActions : List Line → List Action → Bool
  | [], [] => true
  | .action action :: lines, action' :: actions => action == action' && areActions lines actions
  | _, _ => false

/-- Whether a dialog has one thread with nothing but actions, hooks apart. -/
def actsAs (id : String) (actions : List Action) (d : Dialog) : Bool :=
  d.id == id && d.options == { seed := some 7 } &&
    match d.script.threads with
    | [(thread, lines)] => thread == defaultThread && areActions lines actions
    | _ => false

theorem eq_map_of_areActions {lines : List Line} {actions : List Action}
    (h : areActions lines actions = true) : lines = actions.map .action := by
  fun_induction areActions lines actions with
  | case1 => rfl
  | case2 action lines action' actions ih =>
    obtain ⟨rfl, hrest⟩ : action = action' ∧ areActions lines actions = true := by simpa using h
    rw [ih hrest, List.map_cons]
  | case3 => cases h

theorem eq_acting {id : String} {actions : List Action} {d : Dialog}
    (h : actsAs id actions d = true) (hfree : d.CallbackFree) : d = acting id actions := by
  obtain ⟨id', ⟨threads⟩, ⟨before, after, change⟩, options⟩ := d
  obtain ⟨rfl, rfl, rfl, -⟩ := hfree
  simp only [actsAs, Bool.and_eq_true, beq_iff_eq] at h
  obtain ⟨⟨rfl, rfl⟩, hthreads⟩ := h
  split at hthreads
  · simp only [Bool.and_eq_true, beq_iff_eq] at hthreads
    obtain ⟨rfl, hlines⟩ := hthreads
    rw [eq_map_of_areActions hlines]
    rfl
  · cases hthreads

end Dialog

namespace Stack

/-- The text of a dialog that begins the other one again and again. -/
def pingText : String :=
  "\x7b\"id\":\"ping\",\"threads\":\x7b\"default\":[" ++
  "\x7b\"action\":\"beginDialog\",\"execute\":\x7b\"script\":\"pong\"\x7d\x7d," ++
  "\x7b\"action\":\"repeat\"\x7d]\x7d\x7d"

/-- The text of a dialog that ends at once. -/
def pongText : String :=
  "\x7b\"id\":\"pong\",\"threads\":\x7b\"default\":[\x7b\"action\":\"complete\"\x7d]\x7d\x7d"

def ping : Dialog := .acting "ping" [.beginDialog { script := "pong" }, .repeatLine]

def pong : Dialog := .acting "pong" [.complete]

theorem read_pingText : (readDialog pingText).Loaded ∧ readDialog pingText = ping := by
  obtain ⟨hloaded, hacts⟩ := loaded_readDialog pingText
    (Dialog.actsAs "ping" [.beginDialog { script := "pong" }, .repeatLine]) (by decide +kernel)
  exact ⟨hloaded, Dialog.eq_acting hacts hloaded.callbackFree⟩

theorem read_pongText : (readDialog pongText).Loaded ∧ readDialog pongText = pong := by
  obtain ⟨hloaded, hacts⟩ := loaded_readDialog pongText (Dialog.actsAs "pong" [.complete])
    (by decide +kernel)
  exact ⟨hloaded, Dialog.eq_acting hacts hloaded.callbackFree⟩

/-- The two dialogs. -/
def rallyDialogs : DialogSet := [("ping", readDialog pingText), ("pong", readDialog pongText)]

theorem find_ping : rallyDialogs.find "ping" = .ok ping :=
  congrArg Except.ok read_pingText.2

theorem find_pong : rallyDialogs.find "pong" = .ok pong :=
  congrArg Except.ok read_pongText.2

theorem loaded_of_find {id : String} {d : Dialog} (h : rallyDialogs.find id = .ok d) :
    d.Loaded := by
  refine DialogSet.forall_of_find (fun entry hentry => ?_) id d h
  simp only [rallyDialogs, List.mem_cons, List.not_mem_nil, or_false] at hentry
  rcases hentry with rfl | rfl
  · exact read_pingText.1
  · exact read_pongText.1

/-- An empty stack of the two dialogs. -/
def rallyStack : Stack := Stack.empty rallyDialogs fun _ => 0

/-- The session stands on the first line of its thread, where it has begun a dialog. -/
def AtFirst (s : Session) : Prop :=
  s.thread = defaultThread ∧ s.stepIndex = 0 ∧ s.resumeIndex = none

/-- How the stack looks from one session to the next. -/
structure Rally (st : Stack) (frames : List Frame) : Prop extends st.Orderly where
  dialogs : st.dialogs = rallyDialogs
  frames : st.frames = frames

/-- The states of a rally: `ping` is to begin, `pong` is to begin above it, or `ping` is to go on
with the result. -/
inductive Rallying : Flat → Prop where
  | serve {st : Stack} {id : ℕ} {options : LaunchOptions} (hoptions : options.thread = none)
      (h : Rally st [⟨id, "ping", .launch options⟩]) : Rallying (.running .begin st)
  | there {st : Stack} {id id' : ℕ} {options : LaunchOptions} {s : Session}
      (hoptions : options.thread = none) (hs : AtFirst s)
      (h : Rally st [⟨id', "pong", .launch options⟩, ⟨id, "ping", s⟩]) :
      Rallying (.running .begin st)
  | back {st : Stack} {id : ℕ} {s : Session} (r : DialogResult) (hs : AtFirst s)
      (h : Rally st [⟨id, "ping", s⟩]) : Rallying (.running (.resume (some (.result r))) st)

section

variable {st : Stack}

theorem play_serve {options : LaunchOptions} (h : options.thread = none)
    {f : Frame} {rest : List Frame} (hframes : st.frames = f :: rest) :
    ∃ s st' options', AtFirst s ∧ options'.thread = none ∧
      Flat.play (ping.begin.run.run (.launch options)) (st, none) =
        some ((.ok .waiting, s), st', some (.begin "pong" options')) := by
  obtain ⟨thread, channel, values⟩ := options
  obtain rfl : thread = none := h
  obtain ⟨dialogs, frames, _⟩ := st
  obtain rfl : frames = f :: rest := hframes
  exact ⟨_, _, _, ⟨rfl, rfl, rfl⟩, rfl, rfl⟩

theorem play_back {s : Session} (h : AtFirst s) (r : DialogResult) {f : Frame}
    {rest : List Frame} (hframes : st.frames = f :: rest) :
    ∃ s' st' options', AtFirst s' ∧ options'.thread = none ∧
      Flat.play ((ping.resume (some (.result r))).run.run s) (st, none) =
        some ((.ok .waiting, s'), st', some (.begin "pong" options')) := by
  obtain ⟨thread, stepIndex, resumeIndex, _⟩ := s
  obtain ⟨rfl, rfl, rfl⟩ := h
  obtain ⟨dialogs, frames, _⟩ := st
  obtain rfl : frames = f :: rest := hframes
  exact ⟨_, _, _, ⟨rfl, rfl, rfl⟩, rfl, rfl⟩

theorem play_there {options : LaunchOptions} (h : options.thread = none)
    {f : Frame} {rest : List Frame} (hframes : st.frames = f :: rest) :
    ∃ s st' r, Flat.play (pong.begin.run.run (.launch options)) (st, none) =
      some ((.ok .complete, s), st', some (.finish (some r))) := by
  obtain ⟨thread, channel, values⟩ := options
  obtain rfl : thread = none := h
  obtain ⟨dialogs, frames, _⟩ := st
  obtain rfl : frames = f :: rest := hframes
  exact ⟨_, _, _, rfl⟩

theorem Rally.next {f : Frame} {rest : List Frame} (h : Rally st (f :: rest)) (task : Task)
    {d : Dialog} (hd : rallyDialogs.find f.dialog = .ok d) {status : TurnStatus} {s : Session}
    {st' : Stack} {asked : Handover}
    (hplay : Flat.play ((task.on d).run.run f.session) (st, none) =
      some ((.ok status, s), st', some asked)) :
    ∃ st'', Rally st'' ({ f with session := s } :: rest) ∧
      Flat.next? (.running task st) = some (Flat.handOver asked st'') := by
  have hspared :=
    Flat.spared_play (task.yielding (loaded_of_find hd).callbackFree f.session) hplay
  have ho := hspared.orderly h.toOrderly
  refine ⟨st'.store f.id s, ⟨ho.store _ _, hspared.dialogs.trans h.dialogs,
    ho.frames_store (hspared.frames.trans h.frames) s⟩, ?_⟩
  have hfind : st.dialogs.find f.dialog = .ok d := by rw [h.dialogs, hd]
  simp only [Flat.next?, top?, h.frames, List.head?_cons, hfind, hplay, Flat.played, Flat.stopped]

/-- `pong` begins above `ping`. -/
theorem Rally.rallying_begin {id : ℕ} {s : Session} (h : Rally st [⟨id, "ping", s⟩])
    (hs : AtFirst s) {options : LaunchOptions} (hoptions : options.thread = none) :
    Rallying (Flat.begin "pong" options st) := by
  have hfind : st.dialogs.find "pong" = .ok pong := by rw [h.dialogs, find_pong]
  have hnoted : (st.note (.beginningDialog "pong" st.nextFrame st.depth)).Orderly :=
    h.toOrderly.congr rfl rfl rfl
  unfold Flat.begin
  rw [hfind]
  have hframes : ((st.note (.beginningDialog "pong" st.nextFrame st.depth)).push "pong"
      options).frames = [⟨st.nextFrame, "pong", .launch options⟩, ⟨id, "ping", s⟩] :=
    congrArg (List.cons _) h.frames
  exact .there hoptions hs ⟨hnoted.push hfind options, h.dialogs, hframes⟩

theorem Rallying.next {t : Flat} (h : Rallying t) : ∃ t', t.next? = some t' ∧ Rallying t' := by
  cases h with
  | serve hoptions h =>
    obtain ⟨s, st', options', hs, hoptions', hplay⟩ := play_serve hoptions h.frames
    obtain ⟨st'', hrally, hnext⟩ := h.next .begin find_ping hplay
    exact ⟨_, hnext, hrally.rallying_begin hs hoptions'⟩
  | back r hs h =>
    obtain ⟨s', st', options', hs', hoptions', hplay⟩ := play_back hs r h.frames
    obtain ⟨st'', hrally, hnext⟩ := h.next (.resume (some (.result r))) find_ping hplay
    exact ⟨_, hnext, hrally.rallying_begin hs' hoptions'⟩
  | there hoptions hs h =>
    obtain ⟨s', st', r, hplay⟩ := play_there hoptions h.frames
    obtain ⟨st'', hrally, hnext⟩ := h.next .begin find_pong hplay
    refine ⟨_, hnext, ?_⟩
    simp only [Flat.handOver, Flat.finish, hrally.frames]
    exact .back r hs ⟨(hrally.toOrderly.tail hrally.frames).congr rfl rfl rfl, hrally.dialogs, rfl⟩

end

/-- **A rally of two dialogs that come from texts never ends.** -/
theorem rally_never_returns :
    rallyStack.Reachable ∧ rallyStack.Loaded ∧
      ¬∃ outcome st', Returns (.start "ping" {}) rallyStack outcome st' := by
  have hloaded : rallyStack.Loaded := fun _ _ h => loaded_of_find h
  have hreachable : rallyStack.Reachable := .empty _ _
  have hc : (Call.start "ping" {}).IsTurn := trivial
  refine ⟨hreachable, hloaded, fun ⟨outcome, st', h⟩ => ?_⟩
  obtain ⟨o, hends, -⟩ :=
    (hreachable.quiescent.returns_iff_flat hloaded.callbackFree hc).1 h
  refine not_ends_of_progress (fun _ => Rallying.next) ?_ ⟨_, hends⟩
  have hfind : rallyStack.dialogs.find "ping" = .ok ping := find_ping
  have hnoted : (rallyStack.note (.beginningDialog "ping" rallyStack.nextFrame
      rallyStack.depth)).Orderly := hreachable.quiescent.toOrderly.congr rfl rfl rfl
  unfold Flat.begin
  rw [hfind]
  exact .serve rfl ⟨hnoted.push hfind {}, rfl, rfl⟩

end Stack

end Parley

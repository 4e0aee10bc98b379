import Parley.Proofs.Course.Turn
import Parley.Proofs.Index.Room
import Parley.Proofs.Pairing.Answers
import Parley.Proofs.Reading.Record

/-!
# Line numbers stay in range

A stack that has been restored from a snapshot is handed from call to call.  Whatever line numbers
the snapshot has, and however the calls end, the stored sessions have words of 64 bits for line
numbers, and every run goes by such words (`Stack.line_numbers_stay_in_range`).  The one number that
may be missing is that of the line behind a session, if it stands on the very last number: it gets
there after as many runs as the sessions of the snapshot have room for, at the earliest.  A session
elsewhere that goes on behind the last line of its thread ends its dialog, no matter how far behind.

A session that a snapshot has put on the last number cannot be resumed any more, even if it waits at
a line with a number: the call does not return (`Stack.last_number_aborts`).
-/

namespace Parley

open Stepping

/-- In a dialog that is made, every place behind the last line of a thread is one where nothing has
been asked: a line that asks is followed by a line `next`. -/
theorem Dialog.Made.behind {d : Dialog} (h : d.Made) {cursor : Location} {lines : List Line}
    (hlines : d.script.thread? cursor.thread = some lines) (hle : lines.length ≤ cursor.index)
    (hne : cursor.index ≠ 0) (input : Option TurnInput) : d.Behind cursor input lines := by
  refine ⟨hlines, hle, hne, ?_⟩
  cases hasks : d.collectorAt cursor with
  | none => rw [takenAt, hasks, Option.map₂_none_right]
  | some collect =>
    have hnext := h.line?_eq_next hasks
    rw [line?, hlines, Option.bind_some, List.getElem?_eq_none hle] at hnext
    cases hnext

namespace Moment

/-- A session that goes on behind the last line of its thread is taken off with its result, before
anything is sent. -/
theorem exists_takesOff_of_behind {m : Moment} {f : Frame} {d : Dialog} {task : Task}
    {input : Option TurnInput} {lines : List Line} (htop : m.stack.top? = some f)
    (hd : m.stack.dialogs.find f.dialog = .ok d) (hphase : m.phase = .entering f.id task.on)
    (h : d.Behind ⟨f.session.thread, f.session.resumePoint⟩ input lines) (hs : f.session.HasNext)
    (hsteps : d.options.maxSteps ≠ 0) (hinput : task.goesOnWith? = some input) :
    ∃ m', m.Leads m' ∧ m.stack.TakesOff f f.session.ended.result m'.stack ∧
      m'.stack.outbox = m.stack.outbox := by
  obtain ⟨st, phase, K⟩ := m
  obtain rfl : phase = .entering f.id task.on := hphase
  have henters : next? ⟨st, .entering f.id task.on, K⟩ =
      some ⟨st.enter f.id, .running f.id f.session ((task.on d).run.run f.session), K⟩ :=
    next?_entering (Stack.frame?_of_top? htop) hd
  have htop' : (st.enter f.id).top? = some f := htop
  obtain ⟨m', hlead, ⟨hframes, hresults⟩, houtbox⟩ :=
    exists_takesOff (h.finishes hs hsteps hinput) htop' f.id f.session K
  exact ⟨m', .head henters hlead, ⟨hframes, hresults⟩, houtbox⟩

end Moment

namespace Stack

variable {dialogs : DialogSet} {clock : ℕ → UInt32} {start st : Stack}

theorem dialogs_of_ofSnapshot {s : Snapshot} (h : ofSnapshot dialogs clock s = .ok st) :
    st.dialogs = dialogs := by
  obtain ⟨-, fs, n, rfl⟩ := of_ofSnapshot h
  rfl

/-- **Line numbers stay in range.**  Take any snapshot that is read and restored, and any calls on
the stack.  Whenever a run begins, the line numbers of all sessions are words, and so are those that
the run comes to, at every stage, by going on, going back or waiting.  There is a number for the
line behind its session just if that does not stand on the last one, which takes as many runs as
there is room for in the snapshot.  From the last one no run goes on: it is aborted, and the call
does not return.  And if a run goes on from elsewhere, behind the last line of its thread, then the
dialog ends: the run comes straight to its end, and the next thing that becomes of the stack is that
the session is taken off with its result. -/
theorem line_numbers_stay_in_range {source : String} {snapshot : Snapshot} {runs : ℕ} {c : Call}
    {m₀ m : Moment} {ws : List (ℕ × (Dialog → SessionM TurnStatus))} {f : Frame} {d : Dialog}
    {begun : Stage Stack} (hread : Snapshot.decoder.text? source = some snapshot)
    (hrestored : ofSnapshot dialogs clock snapshot = .ok start) (hdialogs : dialogs.Navigable)
    (hcalls : start.Follows runs st) (hopen : c.opening? st = some m₀)
    (hpasses : Passes Moment.next? Moment.entered? m₀ ws m) (hbegins : RunBegins m f d begun) :
    m.stack.Stores (fun _ s => s.Words) ∧
      (∀ rounds t, Leads (d.next? (answer rounds)) begun t → t.InRange) ∧
      (f.session.HasNext ↔ ¬f.session.AtLastNumber) ∧
      (∀ task input, begun.spot = .starting task → task.goesOnWith? = some input →
        (f.session.AtLastNumber →
          (∃ m', m.Leads m' ∧ m'.IsAborted) ∧ ∀ outcome st', ¬Returns c st outcome st') ∧
        (¬f.session.AtLastNumber → ∀ lines,
          d.Behind ⟨f.session.thread, f.session.resumePoint⟩ input lines →
            d.options.maxSteps ≠ 0 →
              (∀ rounds, Leads (d.next? (answer rounds)) begun
                ⟨.closing, f.session.resumed, begun.host⟩) ∧
              ∃ m', m.Leads m' ∧ m.stack.TakesOff f f.session.ended.result m'.stack ∧
                m'.stack.outbox = m.stack.outbox)) ∧
      ∀ N < Session.indexBound, start.Stores (fun d => d.HasRoom N) → runs + ws.length < N →
        ¬f.session.AtLastNumber := by
  have hstart := dialogs_of_ofSnapshot hrestored
  have hreachable : start.Reachable := .restored hrestored
  have hlasts := hdialogs.lasting_words.lasts hreachable hstart
    (stores_words_of_ofSnapshot hread hrestored) hcalls hopen hpasses
  -- the run begins with what is stored of its session
  obtain ⟨htop, hd, task, hphase, hfresh, rfl⟩ := hbegins
  have hmem := mem_frames_of_top? htop
  have hwords : f.session.Words := hlasts.stores.stored f hmem d hd
  have hnavigable : d.Navigable := hdialogs f.dialog d (hlasts.dialogs_eq ▸ hd)
  have hframes : (m.stack.enter f.id).frames ≠ [] := List.ne_nil_of_mem hmem
  refine ⟨hlasts.stores.stored, fun rounds t hlead => ?_, hwords.hasNext_iff,
    fun task' input hspot hinput => ?_, fun N hN hroom hlt => ?_⟩
  · exact (Dialog.within_of_leads hnavigable.steers hfresh hlead).inRange hnavigable hwords
  · obtain rfl := Spot.starting.inj hspot
    refine ⟨fun hlast => ?_, fun hlast lines hbehind hsteps => ?_⟩
    · have hs : ¬f.session.HasNext := fun hs => hwords.hasNext_iff.1 hs hlast
      obtain ⟨m', hlead, haborted⟩ := Moment.exists_isAborted htop hd hphase hinput hs
      have haborts : Aborts c st := ⟨m', ⟨m₀, hopen, hpasses.leads.trans hlead⟩, haborted⟩
      exact ⟨⟨m', hlead, haborted⟩, fun outcome st' hreturns =>
        haborts.not_returns ⟨outcome, st', hreturns⟩⟩
    · have hs := hwords.hasNext_iff.2 hlast
      exact ⟨hbehind.leads_closing hs hsteps hinput hframes,
        Moment.exists_takesOff_of_behind htop hd hphase hbehind hs hsteps hinput⟩
  · -- of the room for all these runs, more than none is left
    have hkept := (hdialogs.lasting_hasRoom hN).lasts hreachable hstart
      (fun g hg d hd _ => hroom g hg d hd) hcalls hopen hpasses
    have hleft : d.HasRoom (N - (runs + ws.length)) f.session :=
      hkept.stores.stored f hmem d hd (Nat.le_of_lt hlt)
    obtain ⟨k, hk⟩ := Nat.exists_eq_succ_of_ne_zero (Nat.sub_ne_zero_of_lt hlt)
    exact hwords.hasNext_iff.1 (hk ▸ hleft).hasNext

/-! ### The clerk and the porter -/

/-- The text of a dialog that welcomes its user and asks for the name. -/
def clerkText : String :=
  "\x7b\"id\":\"clerk\",\"threads\":\x7b\"default\":[\x7b\"text\":\"Welcome.\"\x7d," ++
  "\x7b\"text\":\"Name?\",\"collect\":\x7b\"key\":\"name\"\x7d\x7d]\x7d\x7d"

def clerk : Dialog := readDialog clerkText

/-- A dialog whose callbacks lead to other lines. -/
def porter : Dialog :=
  (((Dialog.empty "porter" { seed := some 7 }).ask (.ofText "Which floor?")
    (.callback (Routine.handler [.repeatLine])) (some ⟨"floor", false⟩)).addChange "floor"
    (Routine.change [.onlyIf (.string "roof") (.goto "stairs")])).addBefore "stairs"
    (Routine.before [.send "The lift does not go there.", .goto defaultThread])

def hotelDialogs : DialogSet := [("clerk", clerk), ("porter", porter)]

/-- The session of the clerk, put on a line by someone, and on another one to wait at. -/
def clerkAt (index : ℕ) (resumeIndex : Option ℕ) : Session :=
  { Session.launch {} with stepIndex := index, resumeIndex := resumeIndex, rngState := 7 }

/-- The snapshot of a session of the clerk. -/
def clerkSnapshot (s : Session) : Snapshot := ⟨[⟨"clerk", s⟩]⟩

/-- The stack that is restored from it. -/
def clerkStack (s : Session) : Stack :=
  { Stack.empty hotelDialogs (fun _ => 0) with
    frames := [⟨1, "clerk", s⟩]
    nextFrame := 2 }

/-- A name that is given to the clerk. -/
def nameGiven : Activity := .message "test" "c1" "u1" "Ada"

/-- No thread of a dialog has more than four lines. -/
def isShort (d : Dialog) : Bool := d.script.threads.all fun thread => thread.2.length ≤ 4

theorem length_le_of_isShort {d : Dialog} (h : isShort d = true) {thread : String}
    {lines : List Line} (hlines : d.script.thread? thread = some lines) : lines.length ≤ 4 :=
  of_decide_eq_true (List.all_eq_true.1 h (thread, lines) (Keyed.mem_of_get?_eq_some hlines))

theorem clerk_facts :
    clerk.Loaded ∧ clerk.options.maxSteps ≠ 0 ∧ isShort clerk = true ∧
      ∃ lines, clerk.script.thread? defaultThread = some lines := by
  obtain ⟨hloaded, h⟩ := loaded_readDialog clerkText
    (fun d => d.options.maxSteps != 0 && (isShort d && d.hasThread defaultThread))
    (by decide +kernel)
  simp only [Bool.and_eq_true, bne_iff_ne, Dialog.hasThread_iff_exists] at h
  exact ⟨hloaded, h⟩

theorem porter_steers : porter.Steers where
  before hook hhook := by
    obtain rfl := List.mem_singleton.1 hhook
    exact Routine.steers_before _
  change hook hhook answer := by
    obtain rfl := List.mem_singleton.1 hhook
    exact Routine.steers_change _ answer
  lines thread lines hlines line hline collect hcollect handler hhandler callback hcallback := by
    obtain ⟨-, rfl⟩ := Prod.mk.inj (List.mem_singleton.1 (Keyed.mem_of_get?_eq_some hlines))
    rcases List.mem_pair.1 hline with rfl | rfl
    · obtain rfl := Option.some.inj hcollect
      obtain rfl := List.mem_singleton.1 hhandler
      obtain rfl := Option.some.inj hcallback
      exact Routine.steers_handler _
    · cases hcollect

theorem hotelDialogs_navigable : hotelDialogs.Navigable := by
  refine DialogSet.forall_of_find fun entry hentry => ?_
  have hshort {d : Dialog} (h : isShort d = true) (thread : String) (lines : List Line)
      (hlines : d.script.thread? thread = some lines) : lines.length + 1 < Session.indexBound :=
    Nat.lt_of_le_of_lt (Nat.succ_le_succ (length_le_of_isShort h hlines)) (by decide)
  rcases List.mem_pair.1 hentry with rfl | rfl
  · obtain ⟨hloaded, -, hclerk, -⟩ := clerk_facts
    exact ⟨hloaded.steers, hshort hclerk⟩
  · exact ⟨porter_steers, hshort rfl⟩

theorem restored_clerk (s : Session) :
    ofSnapshot hotelDialogs (fun _ => 0) (clerkSnapshot s) = .ok (clerkStack s) := rfl

theorem read_clerk {index : ℕ} {resumeIndex : Option ℕ} (h : (clerkAt index resumeIndex).Words) :
    Snapshot.decoder.text? (clerkSnapshot (clerkAt index resumeIndex)).toJson.render =
      some (clerkSnapshot (clerkAt index resumeIndex)) := by
  have hexact : (clerkSnapshot (clerkAt index resumeIndex)).Exact :=
    List.forall_mem_singleton.2
      ⟨h.stepIndex, h.resumeIndex, Json.exact_object_nil, Json.exact_object_nil⟩
  have hdepth : (clerkSnapshot (clerkAt index resumeIndex)).toJson.depth = 6 := by
    cases resumeIndex <;> rfl
  rw [(Snapshot.reads hexact).text?_render, hdepth, if_pos (by decide)]

/-- A session that is put before the last number finds that its thread has ended. -/
theorem line_numbers_stay_in_range_clerk :
    ∃ s m begun lines, s.stepIndex + 2 = Session.indexBound ∧
      Snapshot.decoder.text? (clerkSnapshot s).toJson.render = some (clerkSnapshot s) ∧
      ofSnapshot hotelDialogs (fun _ => 0) (clerkSnapshot s) = .ok (clerkStack s) ∧
      hotelDialogs.Navigable ∧ (Call.continueTurn nameGiven).opening? (clerkStack s) = some m ∧
      RunBegins m ⟨1, "clerk", s⟩ clerk begun ∧
      (clerkStack s).Stores (fun d => d.HasRoom 1) ∧
      clerk.script.thread? defaultThread = some lines ∧ lines.length < s.resumePoint ∧
      (∀ rounds t, Leads (clerk.next? (answer rounds)) begun t → t.InRange) ∧
      (∀ rounds, Leads (clerk.next? (answer rounds)) begun ⟨.closing, s.resumed, begun.host⟩) ∧
      ∃ m', m.Leads m' ∧ m'.stack.frames = [] ∧ m'.stack.outbox = #[] := by
  let s : Session := clerkAt (Session.indexBound - 2) none
  obtain ⟨hloaded, hsteps, hshort, lines, hlines⟩ := clerk_facts
  have hwords : s.Words := ⟨by decide, nofun⟩
  have hread := read_clerk hwords
  have hstores : (clerkStack s).Stores fun d => d.HasRoom 1 := by
    intro f hf d hd
    obtain rfl := List.mem_singleton.1 hf
    exact .apart (by decide) nofun
  let m : Moment := ⟨clerkStack s, .entering 1 (Task.continueWith nameGiven).on, []⟩
  let begun : Stage Stack := ⟨.starting (.continueWith nameGiven), s, (clerkStack s).enter 1⟩
  have hbegins : RunBegins m ⟨1, "clerk", s⟩ clerk begun :=
    ⟨rfl, rfl, .continueWith nameGiven, rfl, nofun, rfl⟩
  have hlt : lines.length < s.resumePoint :=
    Nat.lt_of_le_of_lt (length_le_of_isShort hshort hlines) (by decide)
  obtain ⟨-, hrange, -, hgoesOn, hroom⟩ := line_numbers_stay_in_range hread (restored_clerk s)
    hotelDialogs_navigable .refl (c := .continueTurn nameGiven) rfl (.refl m) hbegins
  have hlast : ¬s.AtLastNumber := hroom 1 (by decide) hstores (by decide)
  obtain ⟨hcloses, m', hlead, ⟨hframes, -⟩, houtbox⟩ := (hgoesOn _ _ rfl rfl).2 hlast lines
    (Dialog.Made.behind (.inr hloaded) hlines (Nat.le_of_lt hlt) (by decide) _) hsteps
  exact ⟨s, m, begun, lines, by decide, hread, restored_clerk s, hotelDialogs_navigable, rfl,
    hbegins, hstores, hlines, hlt, hrange, hcloses, m', hlead, (List.cons.inj hframes).2.symm,
    houtbox⟩

/-- **A session on the last number cannot be resumed.**  There is no number for the line behind it,
so the call does not return, no matter whether that line is the one where the session would go on or
it waits at another one. -/
theorem last_number_aborts :
    hotelDialogs.Navigable ∧ clerk.options.maxSteps ≠ 0 ∧
      ∀ resumeIndex ∈ [none, some 2], ∃ s lines,
        s = clerkAt (Session.indexBound - 1) resumeIndex ∧
        Snapshot.decoder.text? (clerkSnapshot s).toJson.render = some (clerkSnapshot s) ∧
        ofSnapshot hotelDialogs (fun _ => 0) (clerkSnapshot s) = .ok (clerkStack s) ∧
        clerk.script.thread? s.thread = some lines ∧ lines.length < s.stepIndex ∧
        ¬∃ outcome left, Returns (.continueTurn nameGiven) (clerkStack s) outcome left := by
  obtain ⟨-, hsteps, hshort, lines, hlines⟩ := clerk_facts
  refine ⟨hotelDialogs_navigable, hsteps, fun resumeIndex hresume => ?_⟩
  let s : Session := clerkAt (Session.indexBound - 1) resumeIndex
  have hwords : s.Words := by
    refine ⟨show Session.indexBound - 1 < _ by decide, fun r hr => ?_⟩
    rcases List.mem_pair.1 hresume with rfl | rfl
    · cases hr
    · obtain rfl := Option.some.inj hr
      decide
  have hlt : lines.length < s.stepIndex :=
    Nat.lt_of_le_of_lt (length_le_of_isShort hshort hlines)
      (show 4 < Session.indexBound - 1 by decide)
  let m : Moment := ⟨clerkStack s, .entering 1 (Task.continueWith nameGiven).on, []⟩
  have htop : m.stack.top? = some ⟨1, "clerk", s⟩ := rfl
  have hphase : m.phase = .entering 1 (Task.continueWith nameGiven).on := rfl
  have hs : ¬s.HasNext := show ¬Session.indexBound - 1 + 1 < Session.indexBound by decide
  obtain ⟨m', hlead, haborted⟩ := Moment.exists_isAborted htop rfl hphase rfl hs
  have haborts : Aborts (.continueTurn nameGiven) (clerkStack s) :=
    ⟨m', ⟨m, rfl, hlead⟩, haborted⟩
  exact ⟨s, lines, rfl, read_clerk hwords, restored_clerk s, hlines, hlt, haborts.not_returns⟩

end Stack

end Parley

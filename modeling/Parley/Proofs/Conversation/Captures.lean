import Parley.Proofs.Conversation.Parked

/-!
# What becomes of a child's values

When a dialog ends above another session, the session is resumed with its result.  What the session
does with it is said by `Dialog.Captures`: if it stands on a line for a child dialog, it captures
the values of the result, as one object, under the key of that line; anywhere else it runs as if
there were no result.

`Stack.Conversation.captures` : in a conversation the result of every dialog that ends above another
session goes to that session, which stands where it was left when it began the dialog, or one whose
place the dialog took; and no other results come in.
-/

namespace Parley

namespace Dialog

variable (d : Dialog)

/-- The line at a place. -/
def line? (cursor : Location) : Option Line :=
  (d.script.thread? cursor.thread).bind (·[cursor.index]?)

/-- What a session does with the result of a dialog it has begun, and how it is left. -/
inductive Captures (s : Session) (execute : Execute) (r : DialogResult) (left : Session) :
    Prop where
  /-- The dialog was begun by a line for a child dialog. -/
  | child (collect : Collect) (key : String)
      (hline : d.line? s.location = some (.childDialog execute collect))
      (hkey : collect.key = some key)
      (hcollector : d.collectorAt ⟨s.thread, s.resumePoint⟩ = some collect)
      (hvalues : left.values = Keyed.insert s.values key (.object r.values))
  /-- The dialog was begun by an action of a message, a line or a handler. -/
  | nowhere (hline : ∀ execute collect, d.line? s.location ≠ some (.childDialog execute collect))
      (hunheard : (d.resume (some (.result r))).run.run s = (d.resume none).run.run s)
      (hvalues : left.values = s.values)

variable {d}

/-! ### Results that nobody asked for -/

theorem pass_of_collectBefore_eq_none {lines : List Line} {cursor : Location}
    (h : collectBefore lines cursor.index = none) (input : Option TurnInput) :
    d.pass lines ⟨cursor, input⟩ = d.pass lines ⟨cursor, none⟩ := by
  unfold Dialog.pass
  simp only [h]
  cases Pass.answer ⟨cursor, input⟩ <;> rfl

theorem run_of_collectorAt_eq_none {cursor : Location} (h : d.collectorAt cursor = none)
    (budget : ℕ) (input : Option TurnInput) :
    d.run budget cursor input = d.run budget cursor none := by
  cases budget with
  | zero => rfl
  | succ budget =>
    unfold Dialog.run
    cases hlines : d.script.thread? cursor.thread with
    | none => rfl
    | some lines =>
      have hnone : collectBefore lines cursor.index = none := by
        rwa [collectorAt, hlines, Option.bind_some] at h
      simp only [pass_of_collectBefore_eq_none hnone input]

/-- Where nothing is collected, a session does not notice what it is resumed with. -/
theorem resume_of_collectorAt_eq_none {s : Session}
    (h : d.collectorAt ⟨s.thread, s.resumePoint⟩ = none) (input : Option TurnInput) :
    (d.resume input).run.run s = (d.resume none).run.run s := by
  rw [run_resume, run_resume, run_of_collectorAt_eq_none h]

theorem keptAt_of_collectorAt_eq_none {cursor : Location} (h : d.collectorAt cursor = none)
    (input : Option TurnInput) (vars : Vars) : d.keptAt cursor input vars = vars := by
  rw [keptAt, h]
  cases input.bind TurnInput.response <;> rfl

/-! ### Where a session goes on after a child -/

section

variable {s : Session} {execute : Execute}

/-- A session goes on with the line after the one that began a child. -/
theorem HasBegun.collectorAt_resumePoint (h : d.HasBegun s execute) :
    d.collectorAt ⟨s.thread, s.resumePoint⟩ = (d.line? s.location).bind Line.collect? := by
  obtain ⟨lines, hlines, -⟩ := h.place
  have hpoint : s.resumePoint = s.stepIndex + 1 := by
    rw [Session.resumePoint, h.resumeIndex, Option.getD_none]
  rw [collectorAt, line?, Session.location, hlines, hpoint, Option.bind_some, Option.bind_some]
  rfl

theorem AwaitsChild.captures_of_kept (h : d.AwaitsChild s execute) (htidy : d.IsTidy)
    {r : DialogResult} {left : Session}
    (hkept : left.values =
      d.keptAt ⟨s.thread, s.resumePoint⟩ (some (.result r)) s.values) :
    d.Captures s execute r left := by
  have hcollector := h.hasBegun.collectorAt_resumePoint
  obtain ⟨lines, hlines, hbegins⟩ := h.place
  have hline : d.line? s.location = lines[s.stepIndex]? := by
    rw [line?, Session.location, hlines, Option.bind_some]
  have hnowhere {line : Line} (hl : lines[s.stepIndex]? = some line) (hc : line.collect? = none) :
      d.Captures s execute r left := by
    rw [hline, hl, Option.bind_some, hc] at hcollector
    refine .nowhere (fun execute collect hchild => ?_)
      (resume_of_collectorAt_eq_none hcollector _) ?_
    · rw [hline, hl] at hchild
      cases hchild
      cases hc
    · rw [hkept, keptAt_of_collectorAt_eq_none hcollector]
  cases hbegins with
  | child collect hl =>
    rw [hline, hl, Option.bind_some] at hcollector
    obtain ⟨key, hkey, hmultiple⟩ :=
      (htidy _ _ hlines).key_of_child execute collect (List.mem_of_getElem? hl)
    refine .child collect key (hline.trans hl) hkey hcollector ?_
    have hanswer : (some (TurnInput.result r)).bind TurnInput.response = some (.object r.values) :=
      rfl
    have hcaptured : captured s.values key (.object r.values) false = .object r.values := by
      unfold captured
      split <;> rfl
    rw [hkept, keptAt, hanswer, hcollector]
    simp only [Line.collect?, Collect.keep, hkey, hmultiple, hcaptured]
  | message m hl => exact hnowhere hl rfl
  | action hl => exact hnowhere hl rfl
  | handler collect handler hl => exact hnowhere hl rfl

end

end Dialog

/-! ### Conversations -/

/-- A dialog has ended in a visit `u`, above a session that has been there since the visit `w` in
which it began the dialog, and in the next visit `v` this session is resumed with the final values
of the dialog. -/
structure Visit.HandsUp (dialogs : DialogSet) (earlier : List Visit) (w u v : Visit)
    (execute : Execute) (r : DialogResult) : Prop where
  result : r = ⟨u.left.status, u.left.values⟩
  below : u.below = v.frame :: v.below
  begun : BegunBy dialogs earlier u.frame.id v.frame w execute
  resumed : v.task = .resume (some (.result r))
  captured : ∃ d, dialogs.find v.frame.dialog = .ok d ∧
    d.Captures v.frame.session execute r v.left

namespace Stack

variable {st : Stack}

/-- The laws of the visits, put together around the end of a dialog. -/
theorem handsUp_of_lawful (hloaded : st.Loaded) {earlier later : List Visit} {u : Visit}
    {result : Option DialogResult} (hu : u.Lawful st.dialogs earlier) (hgives : u.Gives later)
    (hlater : ∀ v rest, later = v :: rest → v.Lawful st.dialogs (u :: earlier))
    (hasked : u.asked = some (.finish result)) (hbelow : u.below ≠ []) :
    ∃ w v rest execute r, result = some r ∧ later = v :: rest ∧
      Visit.HandsUp st.dialogs earlier w u v execute r := by
  obtain rfl := hu.result result hasked
  obtain ⟨v, rest, rfl, hresumed, hframes⟩ := hgives _ hasked hbelow
  obtain ⟨w, execute, hbegun⟩ := hu.descends v.frame v.below hframes.symm
  obtain ⟨d, hd, hkept⟩ := (hlater v rest rfl).kept _ hresumed
  obtain ⟨d', hd', hawaits⟩ := hbegun.awaits
  obtain rfl : d' = d := Except.ok.inj (hd'.symm.trans hd)
  exact ⟨w, v, rest, execute, _, rfl, rfl, rfl, hframes.symm, hbegun, hresumed, d', hd,
    hawaits.captures_of_kept (hloaded _ _ hd).tidy hkept⟩

/-- **The values of a dialog that ends above another session are captured where it was begun**:
under the key of the line for a child dialog, if it was begun by one, directly or in place of a
dialog begun there, and nowhere else.  No session is resumed with a result but in this way. -/
theorem Conversation.captures {entries : List Entry} (h : st.Conversation entries)
    (hloaded : st.Loaded) :
    ∃ visits : List Visit, entries = visits.map Visit.entry ∧
      (∀ v ∈ visits, v.Happens st.dialogs) ∧
      (∀ pre u post result, visits = pre ++ u :: post → u.asked = some (.finish result) →
        u.below ≠ [] → ∃ w v rest execute r, result = some r ∧ post = v :: rest ∧
          Visit.HandsUp st.dialogs pre.reverse w u v execute r) ∧
      ∀ pre v post r, visits = pre ++ v :: post → v.task.result? = some r →
        ∃ before u, pre = before ++ [u] ∧ u.asked = some (.finish (some r)) ∧
          u.below = v.frame :: v.below := by
  obtain ⟨visits, hentries, -, hlaws⟩ := h.exists_visits hloaded
  refine ⟨visits, hentries, fun v hv => ?_, fun pre u post result hsplit hasked hbelow => ?_,
    fun pre v post r hsplit hr => ?_⟩
  · obtain ⟨pre, post, hsplit⟩ := List.append_of_mem hv
    exact (hlaws pre v post hsplit).1.happens
  · obtain ⟨hu, hgives⟩ := hlaws pre u post hsplit
    refine handsUp_of_lawful hloaded hu hgives (fun v rest hpost => ?_) hasked hbelow
    have hsplit' : visits = (pre ++ [u]) ++ v :: rest := by simp [hsplit, hpost]
    simpa using (hlaws (pre ++ [u]) v rest hsplit').1
  · obtain ⟨u, before, hpre, hasked, hbelow⟩ := (hlaws pre v post hsplit).1.given r hr
    refine ⟨before.reverse, u, ?_, hasked, hbelow⟩
    rw [← List.reverse_reverse pre, hpre, List.reverse_cons]

/-! ### A conversation -/

/-- The stack behind the answer: the desk has the values of the form. -/
def answeredStack : Stack := askingStack.behind 5 reply

theorem returns_answered : Returns reply askingStack (.ok (some .waiting)) answeredStack ∧
    answeredStack.outline = [("desk", ["form"])] :=
  returns_behind (by decide +kernel)

theorem captures_answered :
    ∃ entries, answeredStack.Conversation entries ∧ answeredStack.Loaded ∧
      answeredStack.outline = [("desk", ["form"])] ∧
      ∃ visits : List Visit, entries = visits.map Visit.entry ∧
        ∀ v ∈ visits, v.Happens answeredStack.dialogs := by
  obtain ⟨hreturns, houtline⟩ := returns_answered
  have hreply : reply.IsTurn := trivial
  have hdialogs := hreturns.dialogs_eq.trans dialogs_askingStack
  have hloaded : answeredStack.Loaded := fun id d hd => deskStack_loaded id d (hdialogs ▸ hd)
  obtain ⟨entries, h⟩ := exists_conversation_asking
  obtain ⟨entries', henters⟩ := hreturns.exists_enters
  have hconversation : answeredStack.Conversation (entries ++ entries') := h.turn hreturns henters
  obtain ⟨visits, hentries, hhappens, -⟩ := hconversation.captures hloaded
  exact ⟨_, hconversation, hloaded, houtline, visits, hentries, hhappens⟩

end Stack

end Parley

import Parley.Proofs.Fallback

/-!
# Questions that gather answers

A question may keep several answers under its key, and its first default handler may tell the
session to wait.  Then every reply that matches no pattern is added to what is kept, and the session
waits for more at the place where the answer was dealt with.  From there it still answers the same
question.

A reply is added as one more line of text.  The first one is kept as it is, if nothing but an empty
value was there before.  `Dialog.keptTexts` tells what is kept as the texts that a reply is added
to, so that a list of replies comes to all of them, joined by line breaks
(`Stack.waiting_question_gathers`).
-/

namespace Parley

open Stepping StatefulAttempt

/-! ### What is kept -/

namespace Dialog

/-- The texts that an answer is added to: that of a value which is not empty. -/
def keptTexts (vars : Vars) (key : String) : List String :=
  ((Keyed.get? vars key).filter Json.isTruthy).toList.map Json.toText

variable {vars : Vars} {key : String} {v : Json}

theorem isTruthy_lines (text more : String) :
    (Json.string (text ++ "\n" ++ more)).isTruthy = true := by
  have hne : text ++ "\n" ++ more ≠ "" := by
    intro hempty
    have hlist := congrArg String.toList hempty
    simp at hlist
  simp [Json.isTruthy, hne]

theorem keptTexts_insert_of_isTruthy (hv : v.isTruthy = true) :
    keptTexts (Keyed.insert vars key v) key = [v.toText] := by
  rw [keptTexts, Keyed.get?_insert_self, Option.filter_some, if_pos hv]
  rfl

theorem map_toText_of_keptTexts {text : String} (h : keptTexts vars key = [text]) :
    (Keyed.get? vars key).map Json.toText = some text := by
  unfold keptTexts at h
  cases hvalue : Keyed.get? vars key with
  | none =>
    rw [hvalue] at h
    cases h
  | some v =>
    rw [hvalue, Option.filter_some] at h
    split at h
    · exact congrArg some (List.head_eq_of_cons_eq h)
    · cases h

/-- **An answer is added to what is kept.** -/
theorem keptTexts_captured (hv : v.isTruthy = true) :
    keptTexts (Keyed.insert vars key (captured vars key v true)) key =
      ["\n".intercalate (keptTexts vars key ++ [v.toText])] := by
  cases hprevious : Keyed.get? vars key with
  | none =>
    have hcaptured : captured vars key v true = v := by rw [captured, hprevious]
    rw [hcaptured, keptTexts_insert_of_isTruthy hv, keptTexts, hprevious]
    simp
  | some previous =>
    by_cases htruthy : previous.isTruthy = true
    · have hcaptured : captured vars key v true =
          .string (previous.toText ++ "\n" ++ v.toText) := by
        rw [captured, hprevious]
        simp only [htruthy, Bool.and_self, if_true]
      have hkept : keptTexts vars key = [previous.toText] := by
        rw [keptTexts, hprevious, Option.filter_some, if_pos htruthy]
        rfl
      rw [hcaptured, keptTexts_insert_of_isTruthy (isTruthy_lines _ _), hkept]
      simp [Json.toText]
    · have hcaptured : captured vars key v true = v := by
        rw [captured, hprevious]
        simp [htruthy]
      have hkept : keptTexts vars key = [] := by
        rw [keptTexts, hprevious, Option.filter_some, if_neg htruthy]
        rfl
      rw [hcaptured, keptTexts_insert_of_isTruthy hv, hkept]
      simp

end Dialog

/-- Texts that have been joined are joined with others as if all of them were joined at once. -/
theorem intercalate_join_append {sep : String} {texts : List String} (hne : texts ≠ [])
    (more : List String) :
    sep.intercalate ([sep.intercalate texts] ++ more) = sep.intercalate (texts ++ more) := by
  cases more with
  | nil => rw [List.append_nil, List.append_nil, String.intercalate_singleton]
  | cons text more =>
    rw [String.intercalate_append_of_ne_nil (List.cons_ne_nil _ _) (List.cons_ne_nil _ _),
      String.intercalate_append_of_ne_nil hne (List.cons_ne_nil _ _),
      String.intercalate_singleton]

/-! ### A question that gathers -/

theorem TurnInput.isTruthy_of_response {input : TurnInput} {v : Json}
    (h : input.response = some v) : v.isTruthy = true := (Option.filter_eq_some_iff.1 h).2

namespace Dialog

/-- A question that keeps several answers under a key, without hooks on them, and whose first
default handler does nothing but wait. -/
structure Gatherer (d : Dialog) (question : Location) (key : String) where
  lines : List Line
  message : Message
  collect : Collect
  handler : Handler
  thread_eq : d.script.thread? question.thread = some lines
  line_eq : lines[question.index]? = some (.question message collect)
  key_eq : collect.key = some key
  multiple_eq : collect.multiple = true
  hooks_eq : d.hooks.onChange key = []
  default_eq : collect.options.find? Handler.isDefault = some handler
  action_eq : handler.action = some .wait
  callback_eq : handler.callback = none
  /-- Line numbers are words of 64 bits, also that of the line after the one where the session waits
  for more. -/
  index_lt : question.index + 2 < Session.indexBound
  maxSteps_pos : 0 < d.options.maxSteps

namespace Gatherer

variable {d : Dialog} {question : Location} {key : String} (q : d.Gatherer question key)

/-- A message that is an answer and matches no pattern of the question. -/
structure Adds (activity : Activity) (v : Json) : Prop where
  isMessage : activity.isMessage = true
  response_eq : (TurnInput.message activity).response = some v
  unmatched : ∀ handler ∈ q.collect.options, ∀ text ∈ v.string?, handler.accepts text = false

variable {q} {activity : Activity} {v : Json} {s : Session}

/-- The question leaves such answers to its default handler. -/
def toFallback (q : d.Gatherer question key) : d.Fallback question .wait where
  lines := q.lines
  message := q.message
  collect := q.collect
  handler := q.handler
  thread_eq := q.thread_eq
  line_eq := q.line_eq
  default_eq := q.default_eq
  action_eq := q.action_eq
  callback_eq := q.callback_eq
  index_lt := Nat.lt_of_succ_lt q.index_lt

theorem Adds.unmatched_toFallback (h : q.Adds activity v) : q.toFallback.Unmatched activity v :=
  ⟨h.isMessage, h.response_eq, h.unmatched⟩

/-- The place where answers to the question are dealt with. -/
def place (_ : d.Gatherer question key) : Location := ⟨question.thread, question.index + 1⟩

/-- The session once it waits there with one more answer. -/
def added (q : d.Gatherer question key) (v : Json) (s : Session) : Session :=
  { s with
    thread := q.place.thread
    stepIndex := q.place.index
    resumeIndex := some q.place.index
    values := Keyed.insert s.values key (captured s.values key v true) }

variable (q)

/-- **What comes in is taken for an answer to the question** when the session goes on at the
place. -/
theorem exists_leads_taken {η : Type} (host : (r : Request) → η → Option (r.Answer × η)) (w : η)
    (hgoes : s.GoesOnAt q.place)
    (hmessage : activity.isMessage = true)
    (hresponse : (TurnInput.message activity).response = some v) :
    ∃ budget, Leads (d.next? host) ⟨.starting (.continueWith activity), s, w⟩
        ⟨.settling budget q.lines ⟨q.place, some (.message activity)⟩,
          { s with
            thread := q.place.thread
            stepIndex := q.place.index
            resumeIndex := none }, w⟩ ∧
      (Spot.settling budget q.lines ⟨q.place, some (.message activity)⟩).taken? =
        some (v, q.collect) := by
  obtain ⟨budget, hbudget⟩ := Nat.exists_eq_succ_of_ne_zero (Nat.ne_of_gt q.maxSteps_pos)
  exact ⟨budget, q.toFallback.leads_taken host w hbudget hgoes hmessage hresponse⟩

variable {q}

/-- **A run that is given one more answer keeps it and waits.** -/
theorem Adds.exists_leads_waiting (h : q.Adds activity v) (rounds : ℕ) (st : Stack)
    (hgoes : s.GoesOnAt q.place) :
    ∃ log, Leads (d.next? (Stack.answer rounds)) ⟨.starting (.continueWith activity), s, st⟩
      ⟨.returned (.ok .waiting), q.added v s, { st with log := log }⟩ := by
  obtain ⟨budget, hbudget⟩ := Nat.exists_eq_succ_of_ne_zero (Nat.ne_of_gt q.maxSteps_pos)
  have hhooks : ∀ key' ∈ q.collect.key, d.hooks.onChange key' = [] := by
    intro key' hkey'
    obtain rfl := Option.some.inj (q.key_eq.symm.trans hkey')
    exact q.hooks_eq
  have hkept : q.collect.keep v s.values =
      Keyed.insert s.values key (captured s.values key v true) := by
    rw [Collect.keep, q.key_eq, q.multiple_eq]
  have hdispatching := h.unmatched_toFallback.leads_dispatching (Stack.answer rounds) st hhooks
    hbudget hgoes
  rw [show q.toFallback.collect.keep v s.values = _ from hkept] at hdispatching
  exact ⟨_, hdispatching.tail next?_dispatching_wait⟩

end Gatherer

end Dialog

/-! ### Turn after turn -/

namespace Stack

open Dialog

/-- In every turn the session on top comes to wait at a place.  Nothing is sent or recorded, and
the sessions below are not touched. -/
inductive Waits (place : Location) (f : Frame) (below : List Frame) :
    Stack → List Activity → Stack → Prop where
  | nil (st : Stack) : Waits place f below st [] st
  | cons {st st₁ left : Stack} {activity : Activity} {activities : List Activity} {s : Session}
      (hreturns : Returns (.continueTurn activity) st (.ok (some .waiting)) st₁)
      (hframes : st₁.frames = { f with session := s } :: below)
      (hlocation : s.location = place) (hresume : s.resumeIndex = some place.index)
      (houtbox : st₁.outbox = st.outbox) (hresults : st₁.results = st.results)
      (h : Waits place f below st₁ activities left) :
      Waits place f below st (activity :: activities) left

/-- What comes in with an activity is taken for the answer to a question by the session on top. -/
def TakesFor (collect : Collect) (d : Dialog) (f : Frame) (activity : Activity) (v : Json)
    (st : Stack) : Prop :=
  ∃ m begun, Occurs (.continueTurn activity) st m ∧ RunBegins m f d begun ∧
    ∀ rounds, ∃ t, Leads (d.next? (answer rounds)) begun t ∧ t.spot.taken? = some (v, collect)

variable {st : Stack} {f : Frame} {below : List Frame} {d : Dialog} {question : Location}
  {key : String} {q : d.Gatherer question key} {activity : Activity} {v : Json}

/-- **A turn that brings one more answer** adds it, and the session on top waits for the next. -/
theorem exists_returns_added (h : st.Reachable) (hframes : st.frames = f :: below)
    (hd : st.dialogs.find f.dialog = .ok d)
    (hgoes : f.session.GoesOnAt q.place) (hadds : q.Adds activity v) :
    ∃ left, Returns (.continueTurn activity) st (.ok (some .waiting)) left ∧
      left.frames = { f with session := q.added v f.session } :: below ∧
      left.dialogs = st.dialogs ∧ left.outbox = st.outbox ∧ left.results = st.results := by
  obtain ⟨log, hwaiting⟩ := hadds.exists_leads_waiting 0 (st.enter f.id) hgoes
  obtain ⟨hreturns, hleft⟩ := exists_returns_waiting h hframes hd hwaiting rfl rfl
  exact ⟨_, hreturns, hleft, rfl, rfl, rfl⟩

/-- What a list of answers comes to, turn after turn. -/
theorem exists_waits (h : st.Reachable) {s : Session}
    (hframes : st.frames = { f with session := s } :: below)
    (hd : st.dialogs.find f.dialog = .ok d) (hgoes : s.GoesOnAt q.place)
    {replies : List (Activity × Json)} (hreplies : ∀ r ∈ replies, q.Adds r.1 r.2) :
    ∃ left s', Waits q.place f below st (replies.map Prod.fst) left ∧
      left.frames = { f with session := s' } :: below ∧ left.dialogs = st.dialogs ∧
      s'.GoesOnAt q.place ∧
      "\n".intercalate (keptTexts s'.values key) =
        "\n".intercalate (keptTexts s.values key ++ replies.map fun r => r.2.toText) ∧
      (replies ≠ [] ∨ (∃ text, keptTexts s.values key = [text]) →
        ∃ text, keptTexts s'.values key = [text]) := by
  induction replies generalizing st s with
  | nil =>
    refine ⟨st, s, .nil st, hframes, rfl, hgoes, ?_, fun hone => hone.resolve_left ?_⟩
    · rw [List.map_nil, List.append_nil]
    · exact fun hne => hne rfl
  | cons r replies ih =>
    obtain ⟨hadds, hrest⟩ := List.forall_mem_cons.1 hreplies
    obtain ⟨st₁, hreturns, hframes₁, hdialogs₁, houtbox, hresults⟩ :=
      exists_returns_added (f := { f with session := s }) h hframes hd hgoes hadds
    have hkept : keptTexts (q.added r.2 s).values key =
        ["\n".intercalate (keptTexts s.values key ++ [r.2.toText])] :=
      keptTexts_captured (TurnInput.isTruthy_of_response hadds.response_eq)
    obtain ⟨left, s', hwaits, hframes', hdialogs, hgoes', htexts, hone⟩ :=
      ih (h.call hreturns) hframes₁ (hdialogs₁ ▸ hd) ⟨q.index_lt, rfl⟩ hrest
    refine ⟨left, s', .cons hreturns hframes₁ rfl rfl houtbox hresults hwaits, hframes',
      hdialogs.trans hdialogs₁, hgoes', ?_, fun _ => hone (.inr ⟨_, hkept⟩)⟩
    rw [htexts, hkept, intercalate_join_append (by simp), List.append_assoc]
    rfl

/-- **A question that waits gathers all answers.**  As long as replies match no pattern of it, every
turn adds one to what is kept and waits for the next one at the same place: nothing is sent or
recorded, and no other session changes.  Whatever comes in then, it is taken for an answer to the
same question. -/
theorem waiting_question_gathers (h : st.Reachable) (hframes : st.frames = f :: below)
    (hd : st.dialogs.find f.dialog = .ok d) (q : d.Gatherer question key)
    (hstands : f.session.Stands question) {replies : List (Activity × Json)} (hne : replies ≠ [])
    (hreplies : ∀ r ∈ replies, q.Adds r.1 r.2) :
    ∃ left s, Waits q.place f below st (replies.map Prod.fst) left ∧
      left.frames = { f with session := s } :: below ∧
      (Keyed.get? s.values key).map Json.toText =
        some ("\n".intercalate
          (keptTexts f.session.values key ++ replies.map fun r => r.2.toText)) ∧
      ∀ activity v, activity.isMessage = true → (TurnInput.message activity).response = some v →
        TakesFor q.collect d { f with session := s } activity v left := by
  obtain ⟨left, s, hwaits, hleft, hdialogs, hgoes, htexts, hone⟩ :=
    exists_waits h hframes hd (hstands.goesOnAt q.toFallback.index_lt) hreplies
  obtain ⟨text, htext⟩ := hone (.inl hne)
  refine ⟨left, s, hwaits, hleft, ?_, fun activity v hmessage hresponse => ?_⟩
  · rw [map_toText_of_keptTexts htext, ← htexts, htext, String.intercalate_singleton]
  · obtain ⟨m, hoccurs, -, hbegins⟩ := exists_runBegins_continueTurn hleft (hdialogs ▸ hd) activity
    refine ⟨m, _, hoccurs, hbegins, fun rounds => ?_⟩
    obtain ⟨budget, hleads, htaken⟩ := q.exists_leads_taken (s := s) (answer rounds)
      (left.enter f.id) hgoes hmessage hresponse
    exact ⟨_, hleads, htaken⟩

/-! ### Notes -/

/-- What is done with notes: the one with `done` in it is the last one, and after any other one the
session waits. -/
def notesCollect : Collect :=
  .of (some { key := "notes", multiple := true })
    (.options [{ pattern := some ⟨"done", .literal ['d', 'o', 'n', 'e']⟩, action := some .next },
      Handler.fallback.withAction .wait])

/-- A dialog that asks for notes. -/
def notes : Dialog :=
  { id := "notes"
    script := ⟨[(defaultThread, [.question (.ofText "Notes?") notesCollect, .next])]⟩
    options := { seed := some 7, maxSteps := 4 } }

/-- The question of the dialog. -/
def notesGatherer : notes.Gatherer ⟨defaultThread, 0⟩ "notes" where
  lines := [.question (.ofText "Notes?") notesCollect, .next]
  message := .ofText "Notes?"
  collect := notesCollect
  handler := Handler.fallback.withAction .wait
  thread_eq := rfl
  line_eq := rfl
  key_eq := rfl
  multiple_eq := rfl
  hooks_eq := rfl
  default_eq := rfl
  action_eq := rfl
  callback_eq := rfl
  index_lt := by decide
  maxSteps_pos := by decide

/-- The stack on which notes have been asked for. -/
def notesAsked : Stack :=
  (Stack.empty [("notes", notes)] fun _ => 0).behind 1 (.start "notes" {})

/-- A reply with a text, and the answer in it. -/
def jotted (text : String) : Activity × Json := (.message "test" "c1" "u1" text, .string text)

theorem adds_jotted {text : String}
    (hresponse : (TurnInput.message (jotted text).1).response = some (.string text))
    (hunmatched : Pattern.Form.occursIn (.literal ['d', 'o', 'n', 'e']) text = false) :
    notesGatherer.Adds (jotted text).1 (jotted text).2 := by
  refine ⟨rfl, hresponse, fun handler hhandler text' htext => ?_⟩
  obtain rfl := Option.some.inj htext
  rcases List.mem_pair.1 hhandler with rfl | rfl
  · exact hunmatched
  · rfl

theorem adds_of_mem : ∀ r ∈ [jotted "first", jotted "second"], notesGatherer.Adds r.1 r.2 := by
  intro r hr
  rcases List.mem_pair.1 hr with rfl | rfl <;> refine adds_jotted rfl ?_ <;>
    rw [Pattern.Form.occursIn_literal] <;> decide +kernel

/-- How a session that takes notes stands. -/
structure Standing where
  dialog : String
  location : Location
  resumeIndex : Option ℕ
  texts : List String
deriving DecidableEq

/-- How the sessions of a stack stand. -/
def standings (st : Stack) : List Standing :=
  st.frames.map fun f =>
    ⟨f.dialog, f.session.location, f.session.resumeIndex, keptTexts f.session.values "notes"⟩

theorem call_notesAsked :
    (Stack.empty [("notes", notes)] fun _ => 0).call 1 (.start "notes" {}) =
        some (.ok (some .waiting), notesAsked) ∧
      standings notesAsked = [⟨"notes", ⟨defaultThread, 0⟩, none, []⟩] :=
  call_behind (by decide +kernel)

theorem notesAsked_reachable : notesAsked.Reachable := .call (.empty _ _) ⟨1, call_notesAsked.1⟩

theorem exists_frames_notesAsked :
    ∃ f, notesAsked.frames = [f] ∧ f.dialog = "notes" ∧ f.session.Stands ⟨defaultThread, 0⟩ ∧
      keptTexts f.session.values "notes" = [] := by
  obtain ⟨f, hframes, hf⟩ := List.map_eq_singleton_iff.1 call_notesAsked.2
  obtain ⟨hdialog, hlocation, hresume, hkept⟩ := Standing.mk.inj hf
  exact ⟨f, hframes, hdialog, ⟨hlocation, hresume⟩, hkept⟩

/-- Two notes are kept one below the other. -/
theorem waiting_question_gathers_notes :
    notesAsked.Reachable ∧ (∀ r ∈ [jotted "first", jotted "second"], notesGatherer.Adds r.1 r.2) ∧
      ∃ f left s, notesAsked.frames = [f] ∧ f.session.Stands ⟨defaultThread, 0⟩ ∧
        Waits ⟨defaultThread, 1⟩ f [] notesAsked
          [(jotted "first").1, (jotted "second").1] left ∧
        left.frames = [{ f with session := s }] ∧
        (Keyed.get? s.values "notes").map Json.toText = some "first\nsecond" := by
  obtain ⟨f, hframes, hdialog, hstands, hnothing⟩ := exists_frames_notesAsked
  have hd : notesAsked.dialogs.find f.dialog = .ok notes := hdialog ▸ rfl
  obtain ⟨left, s, hwaits, hleft, htext, -⟩ := waiting_question_gathers notesAsked_reachable hframes
    hd notesGatherer hstands (List.cons_ne_nil _ _) adds_of_mem
  rw [hnothing] at htext
  exact ⟨notesAsked_reachable, adds_of_mem, f, left, s, hframes, hstands, hwaits, hleft, htext⟩

end Stack

end Parley

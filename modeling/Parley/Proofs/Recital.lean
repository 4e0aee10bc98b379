import Parley.Proofs.Course.Plain
import Parley.Proofs.Ending
import Parley.Proofs.Stranding

/-!
# Threads of messages

A thread that says one thing after the other is said in one turn.  Every line is a pass of its own,
and one more pass finds that there is no line left and ends the dialog.  So a dialog that may take
`n` passes says `n` lines at most, and ends if there are fewer (`Stack.messages_run_through`).

What such a thread comes to is told without the engine by `Recites`: messages with content are made
one after the other, each with the random choice that the one before has left, and each is sent in
its parts.  A message without content leaves no trace there.
-/

namespace Parley

open Stepping StatefulAttempt

/-! ### Messages that are written out -/

namespace Text

/-- Whether a text is computed. -/
def isComputed : Text → Bool
  | literal _ | variants _ => false
  | computed _ => true

end Text

theorem compose_bind_of_ok {α β : Type} {x : ComposeM α} {a : α} {rng rng₁ : UInt32}
    (h : x.run.run rng = (.ok a, rng₁)) (f : α → ComposeM β) :
    (x >>= f).run.run rng = (f a).run.run rng₁ := by
  rw [ExceptT.run_bind, StateT.run_bind, h]
  rfl

/-- Composing comes to something, whatever is chosen at random. -/
def Composes {α : Type} (x : ComposeM α) : Prop :=
  ∀ rng : UInt32, ∃ a rng', x.run.run rng = (.ok a, rng')

namespace Composes

variable {α β : Type} {x : ComposeM α} {f : α → ComposeM β}

theorem pure (a : α) : Composes (pure a) := fun rng => ⟨a, rng, rfl⟩

theorem bind (hx : Composes x) (hf : ∀ a, Composes (f a)) : Composes (x >>= f) := by
  intro rng
  obtain ⟨a, rng₁, ha⟩ := hx rng
  obtain ⟨b, rng₂, hb⟩ := hf a rng₁
  exact ⟨b, rng₂, (compose_bind_of_ok ha f).trans hb⟩

end Composes

namespace Message

/-- Whether a message is written out: no part of it is computed.  A text may be one of several. -/
def isLiteral (m : Message) : Bool :=
  !(m.text.any Text.isComputed || m.quickReplies.any Content.isComputed ||
    m.attachments.any Content.isComputed || m.attachment.any Content.isComputed ||
    m.blocks.any Content.isComputed)

variable {m : Message}

theorem composes_chooseText (h : m.text.any Text.isComputed = false) (vars : Vars) :
    Composes (m.chooseText vars) := by
  unfold chooseText
  intro rng
  cases htext : m.text with
  | none => exact ⟨_, _, rfl⟩
  | some text =>
    rw [htext] at h
    cases text with
    | literal => exact ⟨_, _, rfl⟩
    | variants texts => cases texts <;> exact ⟨_, _, rfl⟩
    | computed => cases h

theorem composes_resolve {part : Option Content} (h : part.any Content.isComputed = false)
    (vars : Vars) : Composes (resolve part vars) := by
  intro rng
  cases part with
  | none => exact ⟨_, _, rfl⟩
  | some content =>
    cases content with
    | literal => exact ⟨_, _, rfl⟩
    | computed => cases h

/-- A message that is written out can be made. -/
theorem composes (h : m.isLiteral = true) (vars : Vars) : Composes (m.compose vars) := by
  simp only [isLiteral, Bool.not_eq_true', Bool.or_eq_false_iff] at h
  obtain ⟨⟨⟨⟨htext, hreplies⟩, hattachments⟩, hattachment⟩, hblocks⟩ := h
  refine .bind (.bind (composes_chooseText htext vars) fun text => ?_) fun _ => .pure _
  refine .bind (composes_resolve hreplies vars) fun replies => ?_
  refine .bind (composes_resolve hattachment vars) fun attachment => ?_
  refine .bind (composes_resolve hattachments vars) fun attachments => ?_
  exact .bind (composes_resolve hblocks vars) fun blocks => .pure _

end Message

/-- What a list of messages comes to: what is sent, and the state of random choice behind. -/
inductive Recites (vars : Vars) : UInt32 → List Message → List OutgoingMessage → UInt32 → Prop where
  | nil (rng : UInt32) : Recites vars rng [] [] rng
  /-- A message without content is passed over. -/
  | silent {rng rng' : UInt32} {m : Message} {messages : List Message}
      {said : List OutgoingMessage} (hcontent : m.hasContent = false)
      (h : Recites vars rng messages said rng') : Recites vars rng (m :: messages) said rng'
  | said {rng rng₁ rng' : UInt32} {m : Message} {messages : List Message} {made : OutgoingMessage}
      {said : List OutgoingMessage} (hcontent : m.hasContent = true)
      (hmade : (m.compose vars).run.run rng = (.ok made, rng₁))
      (h : Recites vars rng₁ messages said rng') :
      Recites vars rng (m :: messages) (made.parts ++ said) rng'

theorem Recites.exists_cons {vars : Vars} {rng rng' : UInt32} {m : Message}
    {messages : List Message} {said : List OutgoingMessage}
    (h : Recites vars rng (m :: messages) said rng') :
    ∃ first rng₁ rest, Recites vars rng [m] first rng₁ ∧ Recites vars rng₁ messages rest rng' ∧
      said = first ++ rest := by
  cases h with
  | silent hcontent h => exact ⟨[], rng, said, .silent hcontent (.nil rng), h, rfl⟩
  | @said _ rng₁ _ _ _ made rest hcontent hmade h =>
    refine ⟨made.parts ++ [], rng₁, rest, .said hcontent hmade (.nil rng₁), h, ?_⟩
    rw [List.append_nil]

theorem exists_recites {messages : List Message} (h : ∀ m ∈ messages, m.isLiteral = true)
    (vars : Vars) (rng : UInt32) : ∃ said rng', Recites vars rng messages said rng' := by
  induction messages generalizing rng with
  | nil => exact ⟨[], rng, .nil rng⟩
  | cons m messages ih =>
    obtain ⟨hm, hrest⟩ := List.forall_mem_cons.1 h
    cases hcontent : m.hasContent with
    | false =>
      obtain ⟨said, rng', hsaid⟩ := ih hrest rng
      exact ⟨said, rng', .silent hcontent hsaid⟩
    | true =>
      obtain ⟨made, rng₁, hmade⟩ := m.composes hm vars rng
      obtain ⟨said, rng', hsaid⟩ := ih hrest rng₁
      exact ⟨made.parts ++ said, rng', .said hcontent hmade hsaid⟩

/-- A list of messages comes to one thing only. -/
theorem Recites.unique {vars : Vars} {rng rng₁ rng₂ : UInt32} {messages : List Message}
    {said₁ said₂ : List OutgoingMessage} (h₁ : Recites vars rng messages said₁ rng₁)
    (h₂ : Recites vars rng messages said₂ rng₂) : said₁ = said₂ ∧ rng₁ = rng₂ := by
  induction h₁ generalizing said₂ with
  | nil =>
    cases h₂
    exact ⟨rfl, rfl⟩
  | silent hcontent _ ih =>
    cases h₂ with
    | silent _ h => exact ih h
    | said hcontent' =>
      rw [hcontent] at hcontent'
      cases hcontent'
  | said hcontent hmade _ ih =>
    cases h₂ with
    | silent hcontent' =>
      rw [hcontent] at hcontent'
      cases hcontent'
    | said _ hmade' h =>
      obtain ⟨hok, rfl⟩ := Prod.mk.inj (hmade.symm.trans hmade')
      obtain rfl := Except.ok.inj hok
      obtain ⟨rfl, rfl⟩ := ih h
      exact ⟨rfl, rfl⟩

/-! ### What is said on a stack -/

namespace Stack

/-- The stack when things have been sent, with a log of its own. -/
def having (st : Stack) (said : List OutgoingMessage) (log : Array Event) : Stack :=
  { st with outbox := st.outbox ++ said.toArray, log := log }

theorem having_having (st : Stack) (said said' : List OutgoingMessage) (log log' : Array Event) :
    (st.having said log).having said' log' = st.having (said ++ said') log' := by
  simp only [having, List.append_toArray, Array.append_assoc]

theorem having_nil (st : Stack) (log : Array Event) :
    st.having [] log = { st with log := log } := by
  simp [having]

end Stack

namespace StatefulAttempt

variable {rounds : ℕ}

theorem runOn_send (message : OutgoingMessage) (s : Session) (st : Stack) :
    runOn rounds (Attempt.send message : SessionM Unit) s st =
      some ((.ok (), s), { st with outbox := st.outbox.push message }) := by
  cases rounds <;> rfl

theorem runOn_sendAll (parts : List OutgoingMessage) (s : Session) (st : Stack) :
    runOn rounds (forM parts fun part => (Attempt.send part : SessionM Unit)) s st =
      some ((.ok (), s), st.having parts st.log) := by
  induction parts generalizing st with
  | nil =>
    rw [Stack.having_nil]
    rfl
  | cons part parts ih =>
    rw [List.forM_cons]
    refine (runOn_bind_of_ok (runOn_send part s st) _).trans ((ih _).trans ?_)
    simp [Stack.having]

end StatefulAttempt

/-! ### Line by line -/

/-- Where a run is when a line is done but for its action. -/
def Spot.behindLine (budget : ℕ) (cursor : Location) (s : Session) : Option Action → Spot
  | some action => .dispatching budget cursor action none
  | none => .arriving budget ⟨s.thread, s.stepIndex + 1⟩ none

namespace Dialog

variable {d : Dialog} {rounds budget : ℕ} {lines : List Line} {cursor : Location} {s : Session}
  {st : Stack}

theorem runOn_compose {m : Message} {made : OutgoingMessage} {rng : UInt32}
    (hmade : (m.compose s.values).run.run s.rngState = (.ok made, rng)) (st : Stack) :
    runOn rounds (compose m) s st = some ((.ok made, { s with rngState := rng }), st) := by
  refine (runOn_bind_of_ok rfl _).trans ?_
  rw [hmade]
  rfl

/-- A message is sent, and then its line is done but for its action. -/
theorem exists_next?_message {m : Message} {said : List OutgoingMessage} {rng : UInt32}
    (hsaid : Recites s.values s.rngState [m] said rng) (action : Option Action) :
    ∃ log, d.next? (Stack.answer rounds) ⟨.performing budget cursor (.message m action), s, st⟩ =
      some ⟨.behindLine budget cursor s action, { s with rngState := rng },
        st.having said log⟩ := by
  cases hsaid with
  | silent hcontent hrest =>
    cases hrest
    cases action with
    | some action =>
      refine ⟨st.log, next?_of_runWith (fun _ h => by cases h) ?_⟩
      rw [stride, hcontent, Stack.having_nil]
      rfl
    | none =>
      refine ⟨(st.note (.lineEmpty d.id cursor)).log, next?_of_runWith (fun _ h => by cases h) ?_⟩
      rw [stride, hcontent, Stack.having_nil]
      exact (runWith_bind_of_ok (runOn_note _ s st) _).trans rfl
  | @said _ rng₁ _ _ _ made said hcontent hmade hrest =>
    cases hrest
    refine ⟨st.log, next?_of_runWith (fun _ h => by cases h) ?_⟩
    have hemit : runWith (Stack.answer rounds) (emit m) s st =
        some ((.ok (), { s with rngState := rng }), st.having made.parts st.log) :=
      (runOn_bind_of_ok (runOn_compose hmade st) _).trans (runOn_sendAll made.parts _ st)
    rw [stride, if_pos hcontent, List.append_nil]
    refine (runWith_bind_of_ok hemit _).trans ?_
    cases action <;> rfl

/-- Without hooks before the thread, a pass comes to its line when no answer has come in. -/
theorem exists_leads_checking (hhooks : d.hooks.beforeThread cursor.thread = [])
    (hlines : d.script.thread? cursor.thread = some lines) :
    ∃ log, Leads (d.next? (Stack.answer rounds)) ⟨.arriving (budget + 1) cursor none, s, st⟩
      ⟨.checking budget lines cursor,
        { s with thread := cursor.thread, stepIndex := cursor.index }, st.having [] log⟩ := by
  have hsettling (st : Stack) : d.next? (Stack.answer rounds)
      ⟨.settling budget lines ⟨cursor, none⟩,
        { s with thread := cursor.thread, stepIndex := cursor.index }, st⟩ =
      some ⟨.checking budget lines cursor,
        { s with thread := cursor.thread, stepIndex := cursor.index }, st⟩ :=
    next?_settling_of_answer_eq_none rfl
  by_cases hfirst : cursor.index = 0
  · refine ⟨(st.note (.enteringThread d.id cursor.thread)).log,
      .head (next?_arriving hlines) ?_⟩
    rw [if_pos hfirst, Stack.having_nil]
    exact .head (next?_entering_of_beforeThread_eq_nil hhooks) (.single (hsettling _))
  · refine ⟨st.log, .head (next?_arriving hlines) ?_⟩
    rw [if_neg hfirst, Stack.having_nil]
    exact .single (hsettling st)

/-- **A stretch of messages is said line by line**, each line in a pass of its own. -/
theorem exists_leads_recited (rounds budget : ℕ) {thread : String}
    (hhooks : d.hooks.beforeThread thread = [])
    (hlines : d.script.thread? thread = some lines) (hframes : st.frames ≠ [])
    {messages : List Message} {after : List Line} {index : ℕ}
    (hstretch : lines.drop index = messages.map (.message · none) ++ after)
    (hlocation : s.location = ⟨thread, index - 1⟩)
    {said : List OutgoingMessage} {rng : UInt32}
    (hsaid : Recites s.values s.rngState messages said rng) :
    ∃ log, Leads (d.next? (Stack.answer rounds))
      ⟨.arriving (budget + messages.length) ⟨thread, index⟩ none, s, st⟩
      ⟨.arriving budget ⟨thread, index + messages.length⟩ none,
        { s with
          thread := thread
          stepIndex := index + messages.length - 1
          rngState := rng }, st.having said log⟩ := by
  induction messages generalizing index s st said with
  | nil =>
    cases hsaid
    obtain ⟨rfl, hindex⟩ := Location.mk.inj hlocation
    refine ⟨st.log, ?_⟩
    rw [Stack.having_nil]
    simp only [List.length_nil, Nat.add_zero, ← hindex]
    exact .refl _
  | cons m messages ih =>
    obtain ⟨first, rng₁, rest, hfirst, hrest, rfl⟩ := hsaid.exists_cons
    have hline : lines[index]? = some (.message m none) := by
      have hhead := congrArg (·[0]?) hstretch
      simpa using hhead
    have hstretch' : lines.drop (index + 1) = messages.map (.message · none) ++ after := by
      rw [← List.tail_drop, hstretch, List.map_cons, List.cons_append, List.tail_cons]
    -- the pass on the first line of the stretch leaves the session there
    let reached : Session := { s with thread := thread, stepIndex := index }
    obtain ⟨log, hpass⟩ : ∃ log, Leads (d.next? (Stack.answer rounds))
        ⟨.arriving (budget + messages.length + 1) ⟨thread, index⟩ none, s, st⟩
        ⟨.checking (budget + messages.length) lines ⟨thread, index⟩, reached, st.having [] log⟩ :=
      exists_leads_checking hhooks hlines
    have hchecking : d.next? (Stack.answer rounds)
        ⟨.checking (budget + messages.length) lines ⟨thread, index⟩, reached, st.having [] log⟩ =
        some ⟨.performing (budget + messages.length) ⟨thread, index⟩ (.message m none), reached,
          st.having [] log⟩ := by
      have hstays : (st.having [] log).frames ≠ [] := hframes
      rw [next?_checking hstays, hline]
    have hsays : Recites reached.values reached.rngState [m] first rng₁ := hfirst
    obtain ⟨log₁, hmessage⟩ : ∃ log₁, d.next? (Stack.answer rounds)
        ⟨.performing (budget + messages.length) ⟨thread, index⟩ (.message m none), reached,
          st.having [] log⟩ =
        some ⟨.arriving (budget + messages.length) ⟨thread, index + 1⟩ none,
          { reached with rngState := rng₁ }, (st.having [] log).having first log₁⟩ :=
      exists_next?_message hsays none
    -- and the others follow
    have hstays : ((st.having [] log).having first log₁).frames ≠ [] := hframes
    obtain ⟨log₂, hothers⟩ := ih (s := { reached with rngState := rng₁ }) hstays hstretch' rfl hrest
    refine ⟨log₂, (hpass.tail hchecking).tail hmessage |>.trans ?_⟩
    have hlength : index + 1 + messages.length = index + (messages.length + 1) := by omega
    simp only [Stack.having_having, List.nil_append, hlength] at hothers
    exact hothers

/-- When its session is the only one, a dialog without hooks after the end ends with it. -/
theorem exists_leads_ended {f : Frame} (hhooks : d.hooks.after = []) (hframes : st.frames = [f])
    (hstatus : s.status = .running) :
    ∃ log, Leads (d.next? (Stack.answer 1)) ⟨.closing, s, st⟩
      ⟨.returned (.ok .complete), { s with status := .completed },
        { st with
          frames := []
          results := st.results.push ⟨f.dialog, .completed, s.values⟩
          log := log }⟩ := by
  have hended : s.ended = { s with status := .completed } := if_pos hstatus
  let noted := st.note (.dialogEnded d.id s.ended.status)
  let left : Stack :=
    { noted with frames := [], results := st.results.push ⟨f.dialog, s.ended.result⟩ }
  have hfinish : Stack.answer 1 (.finish (some s.ended.result)) noted =
      some (.ok .complete, left) := by
    show Stack.finishOn _ _ _ _ = _
    rw [Stack.finishOn, show noted.frames = [f] from hframes]
    rfl
  have hclosing : d.next? (Stack.answer 1) ⟨.closing, s, st⟩ =
      some ⟨.parting s.ended.result, s.ended, left⟩ := by
    rw [next?_closing (hframes ▸ List.cons_ne_nil f []), hfinish]
    rfl
  have hparting : d.next? (Stack.answer 1) ⟨.parting s.ended.result, s.ended, left⟩ =
      some ⟨.returned (.ok .complete), s.ended, left⟩ := next?_parting_of_after_eq_nil hhooks
  refine ⟨noted.log, ?_⟩
  have hleads := (Leads.single hclosing).tail hparting
  simp only [left, hended] at hleads ⊢
  exact hleads

theorem exists_leads_over {f : Frame} {thread : String} (budget : ℕ) (hhooks : d.hooks = {})
    (hlines : d.script.thread? thread = some lines) (hframes : st.frames = [f])
    (hstatus : s.status = .running) :
    ∃ log s', Leads (d.next? (Stack.answer 1))
      ⟨.arriving (budget + 1) ⟨thread, lines.length⟩ none, s, st⟩
      ⟨.returned (.ok .complete), s',
        { st with
          frames := []
          results := st.results.push ⟨f.dialog, .completed, s.values⟩
          log := log }⟩ := by
  have hbefore : d.hooks.beforeThread thread = [] := by
    rw [hhooks]
    rfl
  have hafter : d.hooks.after = [] := by rw [hhooks]
  let reached : Session := { s with thread := thread, stepIndex := lines.length }
  obtain ⟨log, hpass⟩ : ∃ log, Leads (d.next? (Stack.answer 1))
      ⟨.arriving (budget + 1) ⟨thread, lines.length⟩ none, s, st⟩
      ⟨.checking budget lines ⟨thread, lines.length⟩, reached, st.having [] log⟩ :=
    exists_leads_checking hbefore hlines
  rw [Stack.having_nil] at hpass
  have hchecking : d.next? (Stack.answer 1)
      ⟨.checking budget lines ⟨thread, lines.length⟩, reached, { st with log := log }⟩ =
      some ⟨.closing, reached, { st with log := log }⟩ := by
    have hstays : ({ st with log := log } : Stack).frames ≠ [] := hframes ▸ List.cons_ne_nil f []
    rw [next?_checking hstays, List.getElem?_eq_none (Nat.le_refl lines.length)]
  obtain ⟨log₁, hended⟩ := exists_leads_ended (s := reached) hafter
    (show ({ st with log := log } : Stack).frames = [f] from hframes) hstatus
  exact ⟨log₁, { reached with status := .completed }, (hpass.tail hchecking).trans hended⟩

end Dialog

namespace Stack

variable {st : Stack} {dialog : String} {options : LaunchOptions} {d : Dialog}

/-- The stack when a dialog that is started begins to run. -/
def starting (dialog : String) (options : LaunchOptions) (d : Dialog) (st : Stack) : Stack :=
  { ((st.note (.beginningDialog dialog st.nextFrame st.depth)).push dialog options).enter
      st.nextFrame with
    ticks := st.ticks + if d.options.seed.isNone then 1 else 0 }

/-- A dialog that is started begins to run, and comes to the first line of its thread. -/
theorem exists_runBegins_start (hd : st.dialogs.find dialog = .ok d) (options : LaunchOptions) :
    ∃ m begun, Occurs (.start dialog options) st m ∧ m.suspended = [] ∧
      RunBegins m ⟨st.nextFrame, dialog, .launch options⟩ d begun ∧
      ∀ rounds, d.next? (answer rounds) begun =
        some ⟨.arriving d.options.maxSteps ⟨options.startThread, 0⟩ none, Stack.begun d options st,
          starting dialog options d st⟩ := by
  let pushed := (st.note (.beginningDialog dialog st.nextFrame st.depth)).push dialog options
  have hbeginning :
      st.beginning dialog options = (pushed, .entering st.nextFrame Dialog.begin) := by
    rw [beginning, hd]
  refine ⟨Call.atOpening (st.beginning dialog options),
    ⟨.starting .begin, .launch options, pushed.enter st.nextFrame⟩, ⟨_, rfl, .refl _⟩, rfl, ?_,
    fun rounds => Dialog.next?_starting_begin⟩
  rw [hbeginning]
  exact ⟨rfl, hd, .begin, rfl, fun _ => ⟨options, rfl⟩, rfl⟩

section

variable {messages : List Message} {said : List OutgoingMessage} {rng : UInt32}

/-- The messages at the beginning of the thread are said, each in a pass of its own. -/
theorem exists_leads_spoken {after : List Line} (rounds budget : ℕ) (dialog : String) (st : Stack)
    (hhooks : d.hooks = {})
    (hlines : d.script.thread? options.startThread =
      some (messages.map (.message · none) ++ after))
    (hsaid : Recites options.values (d.options.seed.getD (st.clock st.ticks)) messages said rng) :
    ∃ log, Leads (d.next? (answer rounds))
      ⟨.arriving (budget + messages.length) ⟨options.startThread, 0⟩ none,
        Stack.begun d options st, starting dialog options d st⟩
      ⟨.arriving budget ⟨options.startThread, messages.length⟩ none,
        { Stack.begun d options st with stepIndex := messages.length - 1, rngState := rng },
        (starting dialog options d st).having said log⟩ := by
  have hbefore : d.hooks.beforeThread options.startThread = [] := by
    rw [hhooks]
    rfl
  have hframes : (starting dialog options d st).frames ≠ [] := List.cons_ne_nil _ _
  have hspoken := Dialog.exists_leads_recited (s := Stack.begun d options st) rounds budget hbefore
    hlines hframes List.drop_zero rfl hsaid
  simp only [Nat.zero_add] at hspoken
  exact hspoken

/-- If there are passes for all messages and one more, all of them are said, and the dialog ends. -/
theorem exists_returns_complete (h : st.Reachable) (hempty : st.frames = [])
    (hd : st.dialogs.find dialog = .ok d) (hhooks : d.hooks = {})
    (hlines : d.script.thread? options.startThread = some (messages.map (.message · none)))
    (hsaid : Recites options.values (d.options.seed.getD (st.clock st.ticks)) messages said rng)
    (hlength : messages.length < d.options.maxSteps) :
    ∃ left, Returns (.start dialog options) st (.ok (some .complete)) left ∧ left.frames = [] ∧
      left.results = st.results.push ⟨dialog, .completed, options.values⟩ ∧
      left.outbox = st.outbox ++ said.toArray := by
  obtain ⟨budget, hbudget⟩ := Nat.exists_eq_add_of_lt hlength
  obtain ⟨m, begun, hoccurs, hlast, hbegins, hnext⟩ := exists_runBegins_start hd options
  have hsplit : d.script.thread? options.startThread =
      some (messages.map (.message · none) ++ []) := by
    rw [hlines, List.append_nil]
  obtain ⟨log, hsays⟩ := exists_leads_spoken 1 (budget + 1) dialog st hhooks hsplit hsaid
  -- the last pass comes to the end of the thread
  have hmaxSteps : d.options.maxSteps = budget + 1 + messages.length := by omega
  rw [← hmaxSteps] at hsays
  have hframes : ((starting dialog options d st).having said log).frames =
      [⟨st.nextFrame, dialog, .launch options⟩] := congrArg (List.cons _) hempty
  have hindex : messages.length = (messages.map (Line.message · none)).length :=
    (List.length_map _).symm
  obtain ⟨log₁, s₁, hover⟩ := Dialog.exists_leads_over budget
    (s := { Stack.begun d options st with stepIndex := messages.length - 1, rngState := rng })
    hhooks hlines hframes rfl
  rw [← hindex] at hover
  have hends := ((Leads.single (hnext 1)).trans hsays).trans hover
  have hreturns := hbegins.returns_of_ok hoccurs ⟨hends, rfl⟩ rfl hlast h.quiescent.pending
  exact ⟨_, hreturns, rfl, rfl, rfl⟩

/-- If there are no more passes than messages, one message is said in each, and then the run
fails. -/
theorem exists_returns_stepGuard (hd : st.dialogs.find dialog = .ok d) (hhooks : d.hooks = {})
    (hlines : d.script.thread? options.startThread = some (messages.map (.message · none)))
    (hsaid : Recites options.values (d.options.seed.getD (st.clock st.ticks))
      (messages.take d.options.maxSteps) said rng)
    (hlength : d.options.maxSteps ≤ messages.length) :
    ∃ left, Returns (.start dialog options) st
        (.error (.stepGuard d.id d.options.maxSteps
          ⟨options.startThread, d.options.maxSteps - 1⟩)) left ∧
      left.results = st.results ∧ left.outbox = st.outbox ++ said.toArray := by
  obtain ⟨m, begun, hoccurs, hlast, hbegins, hnext⟩ := exists_runBegins_start hd options
  have hsplit : d.script.thread? options.startThread =
      some ((messages.take d.options.maxSteps).map (.message · none) ++
        (messages.drop d.options.maxSteps).map (.message · none)) := by
    rw [hlines, ← List.map_append, List.take_append_drop]
  obtain ⟨log, hsays⟩ := exists_leads_spoken 0 0 dialog st hhooks hsplit hsaid
  rw [List.length_take, Nat.min_eq_left hlength, Nat.zero_add] at hsays
  have hends := ((Leads.single (hnext 0)).trans hsays).tail Dialog.next?_arriving_of_usedUp
  exact ⟨_, hbegins.returns_of_error hoccurs ⟨hends, rfl⟩ rfl hlast, rfl, rfl⟩

end

/-- **A thread of messages is said in one turn, as far as the budget goes.**  If there is a pass for
every message and one more, all of them are said and the dialog ends with the values it was
launched with.  Otherwise one message is said in every pass, and the run fails on the line of the
last one. -/
theorem messages_run_through (h : st.Reachable) (hempty : st.frames = [])
    (hd : st.dialogs.find dialog = .ok d) (hhooks : d.hooks = {}) {messages : List Message}
    (hlines : d.script.thread? options.startThread = some (messages.map (.message · none)))
    (hliteral : ∀ m ∈ messages, m.isLiteral = true) :
    ∃ said rng left,
      Recites options.values (d.options.seed.getD (st.clock st.ticks))
        (messages.take d.options.maxSteps) said rng ∧
      left.outbox = st.outbox ++ said.toArray ∧
      (messages.length < d.options.maxSteps →
        Returns (.start dialog options) st (.ok (some .complete)) left ∧ left.frames = [] ∧
          left.results = st.results.push ⟨dialog, .completed, options.values⟩) ∧
      (d.options.maxSteps ≤ messages.length →
        ∃ e, Returns (.start dialog options) st (.error e) left ∧ e.code = "DIALOG_STEP_GUARD" ∧
          e.location = some ⟨options.startThread, d.options.maxSteps - 1⟩ ∧
          left.results = st.results) := by
  obtain ⟨said, rng, hsaid⟩ := exists_recites
    (fun m hm => hliteral m (List.mem_of_mem_take (i := d.options.maxSteps) hm)) options.values
    (d.options.seed.getD (st.clock st.ticks))
  by_cases hlength : messages.length < d.options.maxSteps
  · have hall : messages.take d.options.maxSteps = messages :=
      List.take_of_length_le (Nat.le_of_lt hlength)
    obtain ⟨left, hreturns, hframes, hresults, houtbox⟩ :=
      exists_returns_complete h hempty hd hhooks hlines (hall ▸ hsaid) hlength
    exact ⟨said, rng, left, hsaid, houtbox, fun _ => ⟨hreturns, hframes, hresults⟩,
      fun hle => absurd hlength (Nat.not_lt.2 hle)⟩
  · obtain ⟨left, hreturns, hresults, houtbox⟩ :=
      exists_returns_stepGuard hd hhooks hlines hsaid (Nat.not_lt.1 hlength)
    exact ⟨said, rng, left, hsaid, houtbox, fun hlt => absurd hlt hlength,
      fun _ => ⟨_, hreturns, rfl, rfl, hresults⟩⟩

/-! ### A tale -/

/-- Three messages, of which the second one is without content. -/
def taleMessages : List Message := [.ofText "Once upon a time.", {}, .ofText "The end."]

/-- A dialog that tells them and may take some passes. -/
def tale (passes : ℕ) : Dialog :=
  (((Dialog.empty "tale" { seed := some 7, maxSteps := passes }).say
    (.ofText "Once upon a time.")).say {}).say (.ofText "The end.")

/-- An empty stack of the dialog. -/
def taleStack (passes : ℕ) : Stack := Stack.empty [("tale", tale passes)] fun _ => 0

theorem find_tale (passes : ℕ) : (taleStack passes).dialogs.find "tale" = .ok (tale passes) := rfl

theorem thread?_tale (passes : ℕ) :
    (tale passes).script.thread? (LaunchOptions.startThread {}) =
      some (taleMessages.map (.message · none)) := rfl

theorem isLiteral_of_mem_taleMessages : ∀ m ∈ taleMessages, m.isLiteral = true := by
  simp [taleMessages, Message.ofText, Message.isLiteral, Text.isComputed]

/-- The texts of what a message is sent as, and the state of random choice behind it. -/
def sentTexts (m : Message) (rng : UInt32) : Option (List String) × UInt32 :=
  let (made, rng') := (m.compose []).run.run rng
  (made.toOption.map fun made => made.parts.map OutgoingMessage.text, rng')

theorem texts_of_compose {m : Message} {rng rng₁ rng' : UInt32} {texts : List String}
    {made : OutgoingMessage} (h : sentTexts m rng = (some texts, rng'))
    (hmade : (m.compose []).run.run rng = (.ok made, rng₁)) :
    made.parts.map OutgoingMessage.text = texts ∧ rng₁ = rng' := by
  rw [sentTexts, hmade] at h
  obtain ⟨htexts, hrng⟩ := Prod.mk.inj h
  exact ⟨Option.some.inj htexts, hrng⟩

theorem texts_of_recites_tale {said : List OutgoingMessage} {rng : UInt32}
    (h : Recites [] 7 taleMessages said rng) :
    said.map OutgoingMessage.text = ["Once upon a time.", "The end."] := by
  have hfirst : sentTexts (.ofText "Once upon a time.") 7 =
      (some ["Once upon a time."], 1831565820) := by decide +kernel
  have hlast : sentTexts (.ofText "The end.") 1831565820 = (some ["The end."], 3663131633) := by
    decide +kernel
  -- the second message has no content, and is not sent
  cases h with
  | silent hcontent => cases hcontent
  | said _ hmade h =>
    obtain ⟨htexts, rfl⟩ := texts_of_compose hfirst hmade
    cases h with
    | said hcontent => cases hcontent
    | silent _ h =>
      cases h with
      | silent hcontent => cases hcontent
      | said _ hmade' h =>
        obtain ⟨htexts', rfl⟩ := texts_of_compose hlast hmade'
        cases h
        rw [List.map_append, List.map_append, htexts, htexts']
        rfl

/-- With four passes the tale is told to its end, with three it fails behind the last message. -/
theorem messages_run_through_tale :
    (∀ passes, (taleStack passes).Reachable ∧ (taleStack passes).frames = []) ∧
      (∃ left, Returns (.start "tale" {}) (taleStack 4) (.ok (some .complete)) left ∧
        left.frames = [] ∧ left.results = #[⟨"tale", .completed, []⟩] ∧
        left.outbox.toList.map OutgoingMessage.text = ["Once upon a time.", "The end."]) ∧
      ∃ e left, Returns (.start "tale" {}) (taleStack 3) (.error e) left ∧
        e.location = some ⟨defaultThread, 2⟩ ∧
        left.outbox.toList.map OutgoingMessage.text = ["Once upon a time.", "The end."] := by
  have hreachable (passes : ℕ) : (taleStack passes).Reachable := .empty _ _
  have htold (passes : ℕ) := messages_run_through (hreachable passes) rfl (find_tale passes) rfl
    (thread?_tale passes) isLiteral_of_mem_taleMessages
  have hsent {left : Stack} {said : List OutgoingMessage} {rng : UInt32}
      (hsaid : Recites [] 7 taleMessages said rng) (houtbox : left.outbox = #[] ++ said.toArray) :
      left.outbox.toList.map OutgoingMessage.text = ["Once upon a time.", "The end."] := by
    rw [houtbox, Array.empty_append, List.toList_toArray, texts_of_recites_tale hsaid]
  obtain ⟨_, _, left, hsaid, houtbox, hends, -⟩ := htold 4
  obtain ⟨hreturns, hframes, hresults⟩ := hends (by decide)
  obtain ⟨_, _, left', hsaid', houtbox', -, hfails⟩ := htold 3
  obtain ⟨e, hreturns', -, hlocation, -⟩ := hfails (by decide)
  exact ⟨fun passes => ⟨hreachable passes, rfl⟩,
    ⟨left, hreturns, hframes, hresults, hsent hsaid houtbox⟩,
    e, left', hreturns', hlocation, hsent hsaid' houtbox'⟩

end Stack

end Parley

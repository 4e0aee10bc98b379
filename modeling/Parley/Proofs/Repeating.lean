import Parley.Proofs.Fallback
import Parley.Proofs.Recital

/-!
# Questions that are asked again

The first default handler of a question may tell the session to go back to the line before.  The
line before the place where an answer is dealt with is the question itself.  So every reply that
matches no pattern is kept, the question is asked once more, and the session stands on it as it did
before.  The prompt is made anew each time, from the variables with the reply among them and with
the next random choice (`Stack.repeated_question_asks_again`).

The way back takes two passes, one for the reply and one for the question.  The reply is gone by the
second one, so it is not taken for an answer twice.
-/

namespace Parley

open Stepping StatefulAttempt

/-! ### Asking -/

namespace Dialog

variable {d : Dialog} {rounds budget : ℕ} {cursor : Location} {s : Session} {st : Stack}

theorem next?_performing_question {prompt : Message} {collect : Collect} {made : OutgoingMessage}
    {rng : UInt32} (hmade : (prompt.compose s.values).run.run s.rngState = (.ok made, rng)) :
    d.next? (Stack.answer rounds) ⟨.performing budget cursor (.question prompt collect), s, st⟩ =
      some ⟨.returned (.ok .waiting), { s with rngState := rng },
        { st with outbox := st.outbox.push made }⟩ := by
  refine next?_of_runWith (fun _ h => by cases h) ?_
  have hprompt : runWith (Stack.answer rounds) (d.prompt prompt) s st =
      some ((.ok (.stop .waiting), { s with rngState := rng }),
        { st with outbox := st.outbox.push made }) := by
    refine runWith_tryCatch_of_ok ?_ _
    refine (runWith_bind_of_ok (runOn_compose hmade st) _).trans ?_
    exact (runWith_bind_of_ok (runOn_send made _ st) _).trans rfl
  exact (runWith_bind_of_ok hprompt _).trans rfl

namespace Fallback

variable {question : Location} {q : d.Fallback question .repeatLine} {activity : Activity}
  {v : Json}

/-- The session once the question is asked again with one more reply kept. -/
def reasked (q : d.Fallback question .repeatLine) (v : Json) (rng : UInt32) (s : Session) :
    Session :=
  { s with values := q.collect.keep v s.values, rngState := rng }

/-- **A run that is given such a reply asks the question again and waits.** -/
theorem Unmatched.exists_leads_reasked (h : q.Unmatched activity v) (rounds : ℕ)
    (hhooks : d.hooks = {}) (hsteps : 2 ≤ d.options.maxSteps) (hframes : st.frames ≠ [])
    (hstands : s.Stands question)
    {made : OutgoingMessage} {rng : UInt32}
    (hmade : (q.message.compose (q.collect.keep v s.values)).run.run s.rngState = (.ok made, rng)) :
    ∃ log, Leads (d.next? (Stack.answer rounds)) ⟨.starting (.continueWith activity), s, st⟩
      ⟨.returned (.ok .waiting), q.reasked v rng s,
        { st with outbox := st.outbox.push made, log := log }⟩ := by
  obtain ⟨budget, hbudget⟩ := Nat.exists_eq_add_of_le hsteps
  have hsplit : d.options.maxSteps = budget + 1 + 1 := by omega
  have hchange : ∀ key ∈ q.collect.key, d.hooks.onChange key = [] := fun key _ => by
    rw [hhooks]
    rfl
  have hbefore : d.hooks.beforeThread question.thread = [] := by
    rw [hhooks]
    rfl
  let kept : Session := { q.arrived s with values := q.collect.keep v s.values }
  let noted := st.note (.dispatchingAction d.id Action.repeatLine.keyword)
  -- the first pass keeps the reply and goes back to the question
  have hdispatching : Leads (d.next? (Stack.answer rounds))
      ⟨.starting (.continueWith activity), s, st⟩
      ⟨.dispatching (budget + 1) q.place .repeatLine (some q.lines), kept, st⟩ :=
    h.leads_dispatching (Stack.answer rounds) st hchange hsplit
      (hstands.goesOnAt q.index_lt)
  have hback : d.next? (Stack.answer rounds)
      ⟨.dispatching (budget + 1) q.place .repeatLine (some q.lines), kept, st⟩ =
      some ⟨.arriving (budget + 1) question none, kept, noted⟩ := next?_dispatching_repeatLine
  -- the second one comes to it without an answer
  obtain ⟨log, hpass⟩ : ∃ log, Leads (d.next? (Stack.answer rounds))
      ⟨.arriving (budget + 1) question none, kept, noted⟩
      ⟨.checking budget q.lines question,
        { kept with thread := question.thread, stepIndex := question.index },
        noted.having [] log⟩ := exists_leads_checking hbefore q.thread_eq
  have hreached : ({ kept with thread := question.thread, stepIndex := question.index } : Session) =
      { s with values := q.collect.keep v s.values } := by
    obtain ⟨rfl, hresume⟩ := hstands
    simp only [kept, arrived, Session.location, ← hresume]
  have hchecking : d.next? (Stack.answer rounds)
      ⟨.checking budget q.lines question, { s with values := q.collect.keep v s.values },
        noted.having [] log⟩ =
      some ⟨.performing budget question (.question q.message q.collect),
        { s with values := q.collect.keep v s.values }, noted.having [] log⟩ := by
    have hstays : (noted.having [] log).frames ≠ [] := hframes
    rw [next?_checking hstays, q.line_eq]
  rw [hreached, Stack.having_nil] at hpass
  rw [Stack.having_nil] at hchecking
  exact ⟨log, (((hdispatching.tail hback).trans hpass).tail hchecking).tail
    (next?_performing_question hmade)⟩

end Fallback

end Dialog

/-! ### Turn after turn -/

namespace Stack

open Dialog

/-- In every turn a question is asked again.  The reply is kept as the question says, and one
message is sent, the prompt as it is made then.  The session on top stands on the question, nothing
is recorded, and the sessions below are not touched. -/
inductive AsksAgain (prompt : Message) (collect : Collect) (question : Location) (f : Frame)
    (below : List Frame) : Session → Stack → List (Activity × Json) → Session → Stack → Prop where
  | nil (s : Session) (st : Stack) : AsksAgain prompt collect question f below s st [] s st
  | cons {s s₁ last : Session} {st st₁ left : Stack} {activity : Activity} {v : Json}
      {replies : List (Activity × Json)} {made : OutgoingMessage}
      (hreturns : Returns (.continueTurn activity) st (.ok (some .waiting)) st₁)
      (hframes : st₁.frames = { f with session := s₁ } :: below)
      (hstands : s₁.Stands question) (hvalues : s₁.values = collect.keep v s.values)
      (hmade : (prompt.compose s₁.values).run.run s.rngState = (.ok made, s₁.rngState))
      (houtbox : st₁.outbox = st.outbox.push made) (hresults : st₁.results = st.results)
      (h : AsksAgain prompt collect question f below s₁ st₁ replies last left) :
      AsksAgain prompt collect question f below s st ((activity, v) :: replies) last left

variable {st : Stack} {f : Frame} {below : List Frame} {d : Dialog} {question : Location}
  {q : d.Fallback question .repeatLine} {activity : Activity} {v : Json}

/-- **A turn that brings such a reply** asks the question again. -/
theorem exists_returns_reasked (h : st.Reachable) (hframes : st.frames = f :: below)
    (hd : st.dialogs.find f.dialog = .ok d) (hhooks : d.hooks = {})
    (hsteps : 2 ≤ d.options.maxSteps) (hliteral : q.message.isLiteral = true)
    (hstands : f.session.Stands question) (hunmatched : q.Unmatched activity v) :
    ∃ made rng left, Returns (.continueTurn activity) st (.ok (some .waiting)) left ∧
      left.frames = { f with session := q.reasked v rng f.session } :: below ∧
      (q.message.compose (q.collect.keep v f.session.values)).run.run f.session.rngState =
        (.ok made, rng) ∧
      left.dialogs = st.dialogs ∧ left.outbox = st.outbox.push made ∧
      left.results = st.results := by
  obtain ⟨made, rng, hmade⟩ :=
    q.message.composes hliteral (q.collect.keep v f.session.values) f.session.rngState
  have hne : (st.enter f.id).frames ≠ [] := by
    rw [show (st.enter f.id).frames = f :: below from hframes]
    exact List.cons_ne_nil f below
  obtain ⟨log, hreasked⟩ :=
    hunmatched.exists_leads_reasked 0 hhooks hsteps hne hstands hmade
  obtain ⟨hreturns, hleft⟩ := exists_returns_waiting h hframes hd hreasked rfl rfl
  exact ⟨made, rng, _, hreturns, hleft, hmade, rfl, rfl, rfl⟩

/-- What a list of replies comes to, turn after turn. -/
theorem exists_asksAgain (hhooks : d.hooks = {}) (hsteps : 2 ≤ d.options.maxSteps)
    (hliteral : q.message.isLiteral = true) {s : Session} (h : st.Reachable)
    (hframes : st.frames = { f with session := s } :: below)
    (hd : st.dialogs.find f.dialog = .ok d) (hstands : s.Stands question)
    {replies : List (Activity × Json)} (hreplies : ∀ r ∈ replies, q.Unmatched r.1 r.2) :
    ∃ last left, AsksAgain q.message q.collect question f below s st replies last left ∧
      last.Stands question ∧ left.frames = { f with session := last } :: below := by
  induction replies generalizing st s with
  | nil => exact ⟨s, st, .nil s st, hstands, hframes⟩
  | cons r replies ih =>
    obtain ⟨hunmatched, hrest⟩ := List.forall_mem_cons.1 hreplies
    obtain ⟨made, rng, st₁, hreturns, hframes₁, hmade, hdialogs, houtbox, hresults⟩ :=
      exists_returns_reasked (f := { f with session := s }) h hframes hd hhooks hsteps hliteral
        hstands hunmatched
    have hagain : (q.reasked r.2 rng s).Stands question := ⟨hstands.location, hstands.resumeIndex⟩
    obtain ⟨last, left, hasks, hlast, hleft⟩ :=
      ih (h.call hreturns) hframes₁ (hdialogs ▸ hd) hagain hrest
    exact ⟨last, left, .cons hreturns hframes₁ hagain rfl hmade houtbox hresults hasks, hlast,
      hleft⟩

/-- **A question that is repeated asks again forever.**  As long as replies match no pattern of it,
every turn keeps the reply and waits, sends exactly the prompt of the question, made from the
variables with the reply among them, and leaves the session on the question and all other sessions
as they are. -/
theorem repeated_question_asks_again (h : st.Reachable) (hframes : st.frames = f :: below)
    (hd : st.dialogs.find f.dialog = .ok d) (q : d.Fallback question .repeatLine)
    (hhooks : d.hooks = {}) (hsteps : 2 ≤ d.options.maxSteps)
    (hliteral : q.message.isLiteral = true) (hstands : f.session.Stands question)
    {replies : List (Activity × Json)} (hreplies : ∀ r ∈ replies, q.Unmatched r.1 r.2) :
    ∃ last left, AsksAgain q.message q.collect question f below f.session st replies last left ∧
      last.Stands question ∧ left.frames = { f with session := last } :: below :=
  exists_asksAgain hhooks hsteps hliteral h hframes hd hstands hreplies

/-! ### A choice of drinks -/

/-- What is done with a choice: with `tea` in it the dialog goes on, and after any other one it goes
back. -/
def drinkCollect : Collect :=
  .of (some { key := "drink" })
    (.options [Handler.fallback.withAction .repeatLine,
      { pattern := some ⟨"tea", .literal ['t', 'e', 'a']⟩, action := some .next }])

/-- A dialog that greets and has nothing but tea. -/
def teahouse : Dialog :=
  { id := "teahouse"
    script := ⟨[(defaultThread,
      [.message (.ofText "Welcome.") none, .question (.ofText "Tea?") drinkCollect, .next])]⟩
    options := { seed := some 7, maxSteps := 2 } }

/-- The question of the dialog. -/
def teahouseFallback : teahouse.Fallback ⟨defaultThread, 1⟩ .repeatLine where
  lines := [.message (.ofText "Welcome.") none, .question (.ofText "Tea?") drinkCollect, .next]
  message := .ofText "Tea?"
  collect := drinkCollect
  handler := Handler.fallback.withAction .repeatLine
  thread_eq := rfl
  line_eq := rfl
  default_eq := rfl
  action_eq := rfl
  callback_eq := rfl
  index_lt := by decide

/-- The stack on which tea has been offered. -/
def teaOffered : Stack :=
  (Stack.empty [("teahouse", teahouse)] fun _ => 0).behind 1 (.start "teahouse" {})

/-- A guest who orders something, and the order. -/
def order (text : String) : Activity × Json := (.message "test" "c1" "u1" text, .string text)

/-- Two orders that are not for tea. -/
def orders : List (Activity × Json) := [order "coffee", order "milk"]

theorem unmatched_order {text : String}
    (hresponse : (TurnInput.message (order text).1).response = some (.string text))
    (hunmatched : Pattern.Form.occursIn (.literal ['t', 'e', 'a']) text = false) :
    teahouseFallback.Unmatched (order text).1 (order text).2 := by
  refine ⟨rfl, hresponse, fun handler hhandler text' htext => ?_⟩
  obtain rfl := Option.some.inj htext
  rcases List.mem_pair.1 hhandler with rfl | rfl
  · rfl
  · exact hunmatched

theorem unmatched_of_mem_orders : ∀ r ∈ orders, teahouseFallback.Unmatched r.1 r.2 := by
  intro r hr
  rcases List.mem_pair.1 hr with rfl | rfl <;> refine unmatched_order rfl ?_ <;>
    rw [Pattern.Form.occursIn_literal] <;> decide +kernel

/-- Where the sessions of a stack stand. -/
def places (st : Stack) : List (String × Location × Option ℕ) :=
  st.frames.map fun f => (f.dialog, f.session.location, f.session.resumeIndex)

theorem call_teaOffered :
    (Stack.empty [("teahouse", teahouse)] fun _ => 0).call 1 (.start "teahouse" {}) =
        some (.ok (some .waiting), teaOffered) ∧
      places teaOffered = [("teahouse", ⟨defaultThread, 1⟩, none)] :=
  call_behind (by decide +kernel)

theorem teaOffered_reachable : teaOffered.Reachable := .call (.empty _ _) ⟨1, call_teaOffered.1⟩

/-- Whoever orders coffee, and then milk, is offered tea again, and again. -/
theorem repeated_question_asks_again_teahouse :
    teaOffered.Reachable ∧ (∀ r ∈ orders, teahouseFallback.Unmatched r.1 r.2) ∧
      ∃ f last left, teaOffered.frames = [f] ∧ f.session.Stands ⟨defaultThread, 1⟩ ∧
        AsksAgain (.ofText "Tea?") drinkCollect ⟨defaultThread, 1⟩ f [] f.session teaOffered orders
          last left ∧
        left.frames = [{ f with session := last }] := by
  obtain ⟨f, hframes, hf⟩ := List.map_eq_singleton_iff.1 call_teaOffered.2
  obtain ⟨hdialog, hplace⟩ := Prod.mk.inj hf
  have hstands : f.session.Stands ⟨defaultThread, 1⟩ :=
    ⟨(Prod.mk.inj hplace).1, (Prod.mk.inj hplace).2⟩
  have hd : teaOffered.dialogs.find f.dialog = .ok teahouse := hdialog ▸ rfl
  have hliteral : teahouseFallback.message.isLiteral = true := rfl
  obtain ⟨last, left, hasks, -, hleft⟩ := repeated_question_asks_again teaOffered_reachable hframes
    hd teahouseFallback rfl (Nat.le_refl 2) hliteral hstands unmatched_of_mem_orders
  exact ⟨teaOffered_reachable, unmatched_of_mem_orders, f, last, left, hframes, hstands, hasks,
    hleft⟩

end Stack

end Parley

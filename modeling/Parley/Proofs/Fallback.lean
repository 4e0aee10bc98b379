import Parley.Proofs.Answering
import Parley.Proofs.Course.Plain
import Parley.Proofs.Stranding

/-!
# Questions and their default handlers

A reply that matches no pattern of a question is left to its first default handler.  A
`Dialog.Fallback` is a question whose first default handler has an action and nothing else.  A turn
that brings such a reply keeps it as the question says, and then comes to that action
(`Fallback.Unmatched.leads_dispatching`).

What the action leads to differs.  If the run waits at last, and has put no session on the stack and
taken none off, the turn returns and the session is left on top as the run has left it
(`Stack.exists_returns_waiting`).
-/

namespace Parley

open Stepping StatefulAttempt

namespace Dialog

/-- A question whose first default handler has an action and nothing else. -/
structure Fallback (d : Dialog) (question : Location) (action : Action) where
  lines : List Line
  message : Message
  collect : Collect
  handler : Handler
  thread_eq : d.script.thread? question.thread = some lines
  line_eq : lines[question.index]? = some (.question message collect)
  default_eq : collect.options.find? Handler.isDefault = some handler
  action_eq : handler.action = some action
  callback_eq : handler.callback = none
  /-- Line numbers are words of 64 bits. -/
  index_lt : question.index + 1 < Session.indexBound

namespace Fallback

variable {d : Dialog} {question : Location} {action : Action} (q : d.Fallback question action)

/-- A message that is an answer and matches no pattern of the question. -/
structure Unmatched (activity : Activity) (v : Json) : Prop where
  isMessage : activity.isMessage = true
  response_eq : (TurnInput.message activity).response = some v
  unmatched : ∀ handler ∈ q.collect.options, ∀ text ∈ v.string?, handler.accepts text = false

/-- The place where answers to the question are dealt with. -/
def place (_ : d.Fallback question action) : Location := ⟨question.thread, question.index + 1⟩

/-- The session once it has come there. -/
def arrived (q : d.Fallback question action) (s : Session) : Session :=
  { s with thread := q.place.thread, stepIndex := q.place.index, resumeIndex := none }

variable {activity : Activity} {v : Json} {s : Session}

/-- Such an answer is left to the default handler. -/
theorem Unmatched.select_eq {q : d.Fallback question action} (h : q.Unmatched activity v) :
    q.collect.select v = some q.handler := by
  have hnone : (v.string?.bind fun text => q.collect.options.find? (·.accepts text)) = none := by
    rw [Option.bind_eq_none_iff]
    intro text htext
    rw [List.find?_eq_none]
    intro handler hhandler
    rw [h.unmatched handler hhandler text htext]
    exact Bool.false_ne_true
  rw [Collect.select, hnone, Option.none_or, q.default_eq]

section

variable {η : Type} (host : (r : Request) → η → Option (r.Answer × η)) (w : η) {budget : ℕ}

/-- **What comes in is taken for an answer to the question** when the session goes on at the
place. -/
theorem leads_taken (hbudget : d.options.maxSteps = budget + 1) (hgoes : s.GoesOnAt q.place)
    (hmessage : activity.isMessage = true)
    (hresponse : (TurnInput.message activity).response = some v) :
    Leads (d.next? host) ⟨.starting (.continueWith activity), s, w⟩
        ⟨.settling budget q.lines ⟨q.place, some (.message activity)⟩, q.arrived s, w⟩ ∧
      (Spot.settling budget q.lines ⟨q.place, some (.message activity)⟩).taken? =
        some (v, q.collect) := by
  have hstarting : d.next? host ⟨.starting (.continueWith activity), s, w⟩ =
      some ⟨.arriving (budget + 1) q.place (some (.message activity)),
        { s with resumeIndex := none }, w⟩ := by
    rw [next?_starting_continueWith hmessage hgoes.hasNext, hgoes.place_eq, hbudget]
  have hlines : d.script.thread? q.place.thread = some q.lines := q.thread_eq
  have harriving : d.next? host ⟨.arriving (budget + 1) q.place (some (.message activity)),
      { s with resumeIndex := none }, w⟩ =
      some ⟨.settling budget q.lines ⟨q.place, some (.message activity)⟩, q.arrived s, w⟩ := by
    have hbehind : q.place.index ≠ 0 := Nat.succ_ne_zero question.index
    rw [next?_arriving hlines, if_neg hbehind]
    rfl
  refine ⟨.head hstarting (.single harriving), ?_⟩
  have hanswer : Pass.answer ⟨q.place, some (.message activity)⟩ = some v := hresponse
  have hcollect : collectBefore q.lines q.place.index = some q.collect := by
    show q.lines[question.index]?.bind Line.collect? = some q.collect
    rw [q.line_eq]
    rfl
  rw [Spot.taken?, hanswer, hcollect]
  rfl

variable {q}

/-- **An answer that matches no pattern is kept, and the action of the default handler is next**, if
there are no hooks on the answer. -/
theorem Unmatched.leads_dispatching (h : q.Unmatched activity v)
    (hhooks : ∀ key ∈ q.collect.key, d.hooks.onChange key = [])
    (hbudget : d.options.maxSteps = budget + 1) (hgoes : s.GoesOnAt q.place) :
    Leads (d.next? host) ⟨.starting (.continueWith activity), s, w⟩
      ⟨.dispatching budget q.place action (some q.lines),
        { q.arrived s with values := q.collect.keep v s.values }, w⟩ := by
  obtain ⟨htaken, hspot⟩ := q.leads_taken host w hbudget hgoes h.isMessage h.response_eq
  let kept : Session := { q.arrived s with values := q.collect.keep v s.values }
  let pass : Pass := ⟨q.place, some (.message activity)⟩
  have hselecting : d.next? host ⟨.selecting budget q.lines pass v q.collect, kept, w⟩ =
      some ⟨.dispatching budget q.place action (some q.lines), kept, w⟩ :=
    next?_selecting_of_action h.select_eq q.callback_eq q.action_eq
  have hsettling : d.next? host ⟨.settling budget q.lines pass, q.arrived s, w⟩ = _ :=
    next?_of_taken hspot
  cases hkey : q.collect.key with
  | none =>
    rw [hkey] at hsettling
    exact (htaken.tail hsettling).tail hselecting
  | some key =>
    rw [hkey] at hsettling
    have hannouncing : d.next? host ⟨.announcing budget q.lines pass v q.collect key, kept, w⟩ =
        some ⟨.selecting budget q.lines pass v q.collect, kept, w⟩ :=
      next?_announcing_of_onChange_eq_nil (hhooks key hkey)
    exact ((htaken.tail hsettling).tail hannouncing).tail hselecting

end

end Fallback

end Dialog

/-! ### Turns that wait -/

namespace Stack

variable {st ran : Stack} {f : Frame} {below : List Frame} {d : Dialog} {activity : Activity}
  {s : Session}

theorem exists_runBegins_continueTurn (hframes : st.frames = f :: below)
    (hd : st.dialogs.find f.dialog = .ok d) (activity : Activity) :
    ∃ m, Occurs (.continueTurn activity) st m ∧ m.suspended = [] ∧
      RunBegins m f d ⟨.starting (.continueWith activity), f.session, st.enter f.id⟩ := by
  have htop : st.top? = some f := top?_eq_some_iff.2 ⟨below, hframes⟩
  refine ⟨⟨st, .entering f.id (·.continueWith activity), []⟩, ⟨_, ?_, .refl _⟩, rfl, htop, hd,
    .continueWith activity, rfl, nofun, rfl⟩
  rw [Call.opening?, htop, Option.map_some]

/-- **A turn whose run waits at last returns**, and the session is left on top as the run has left
it. -/
theorem exists_returns_waiting (h : st.Reachable) (hframes : st.frames = f :: below)
    (hd : st.dialogs.find f.dialog = .ok d)
    (hlead : Leads (d.next? (answer 0))
      ⟨.starting (.continueWith activity), f.session, st.enter f.id⟩
      ⟨.returned (.ok .waiting), s, ran⟩)
    (hran : ran.frames = st.frames) (hpending : ran.pending = st.pending) :
    Returns (.continueTurn activity) st (.ok (some .waiting)) (ran.leave.store f.id s) ∧
      (ran.leave.store f.id s).frames = { f with session := s } :: below := by
  obtain ⟨m, hoccurs, hlast, hbegins⟩ := exists_runBegins_continueTurn hframes hd activity
  have hnothing : ran.pending = [] := hpending.trans h.quiescent.pending
  have hreturns := hbegins.returns_of_ok hoccurs ⟨hlead, rfl⟩ rfl hlast hnothing
  -- the session is written back, and those below it have other numbers
  have hbelow : ∀ g ∈ below, g.id < f.id := by
    have hascending := h.quiescent.ascending
    rw [hframes] at hascending
    exact (List.pairwise_cons.1 hascending).1
  have hleave : ran.leave.frames = f :: below := hran.trans hframes
  have hleft := frames_store_top hleave hbelow s
  have hstatus : (ran.leave.store f.id s).status = .waiting :=
    status_of_top (top?_eq_some_iff.2 ⟨below, hleft⟩)
  rw [told_of_status_eq hstatus] at hreturns
  exact ⟨hreturns, hleft⟩

end Stack

end Parley

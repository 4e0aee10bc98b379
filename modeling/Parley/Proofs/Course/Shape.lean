import Parley.Proofs.Course.Deeds

/-!
# What is due

A deed of a run is `Due` if what comes before it allows it, and when hooks on the answer have moved
the cursor only the next pass is due (`DueThen`).  What has been done at a spot, as far as later
deeds depend on it, is its `Shape`; after hooks on the answer have moved the cursor a run is
`Redirected` to where they have moved it.  Deeds are recorded in the order of a run, so a law about
what comes before a deed is kept when one more deed is due (`Deed.Each.concat`).

* `Shape.due`, `Redirected.due` : what is done at a stage is due.
* `Shape.next`, `Redirected.next` : from one stage to the next both are kept.
-/

namespace Parley

open Stepping StatefulAttempt

namespace Deed

/-- The line that is carried out, or whose action is dispatched. -/
def line? : Deed → Option Location
  | performs cursor _ | dispatches cursor _ => some cursor
  | arrives .. | before .. | captures .. | changes .. | handles _ | finishes .. | after .. => none

/-- Something is done with the answer that the turn brought. -/
def ofAnswer : Deed → Bool
  | captures .. | changes .. | handles _ => true
  | arrives .. | before .. | performs .. | dispatches .. | finishes .. | after .. => false

/-- A pass begins. -/
def isArrival : Deed → Bool
  | arrives .. => true
  | before .. | captures .. | changes .. | handles _ | performs .. | dispatches .. | finishes ..
  | after .. => false

/-- What is due is so for each deed of a story, after those before it. -/
def Each (P : List Deed → Deed → Prop) (ds : List Deed) : Prop :=
  ∀ earlier deed later, ds = earlier ++ deed :: later → P earlier deed

section

variable {P : List Deed → Deed → Prop} {ds : List Deed}

theorem each_nil : Each P [] := by
  intro earlier deed later h
  exact absurd h (List.append_ne_nil_of_right_ne_nil _ (List.cons_ne_nil _ _)).symm

theorem Each.concat {deed : Deed} (h : Each P ds) (hdeed : P ds deed) : Each P (ds ++ [deed]) := by
  intro earlier deed' later heq
  rcases List.eq_nil_or_concat later with rfl | ⟨later, last, rfl⟩
  · obtain ⟨rfl, hlast⟩ := List.append_inj' heq rfl
    obtain rfl := List.head_eq_of_cons_eq hlast
    exact hdeed
  · have hall : ds ++ [deed] = (earlier ++ deed' :: later) ++ [last] := by
      rw [heq, List.append_assoc, List.cons_append, List.concat_eq_append]
    obtain ⟨rfl, -⟩ := List.append_inj' hall rfl
    exact h earlier deed' later rfl

end

end Deed

namespace Dialog

variable (d : Dialog) (budget : ℕ) (cursor : Location) (input : Option TurnInput)

/-! ### What has been done -/

/-- The first pass is going on. -/
def FirstPass (ds : List Deed) : Prop :=
  ∃ rest, ds = .arrives cursor input :: rest ∧ ∀ deed ∈ rest, deed.isArrival = false

/-- The hooks before a thread have just been called, all of them, and have left the cursor at the
line where the pass began. -/
def JustEntered (ds : List Deed) (cursor : Location) : Prop :=
  ∃ earlier input, ds = earlier ++ [.arrives cursor input,
    .before (d.hooks.beforeThread cursor.thread) (some cursor)]

/-- What is done with an answer: it is captured, the hooks on it are called, and it is handed to the
handler that is selected; or only a first part of that. -/
def AnswerStory (answer : Json) (collect : Collect) (ds : List Deed) : Prop :=
  match collect.key with
  | none => ds <+: ((collect.select answer).map Deed.handles).toList
  | some key => ∃ called left, called <+: d.hooks.onChange key ∧
      (left ≠ none → called = d.hooks.onChange key) ∧
      ds <+: .captures key answer :: .changes called answer left ::
        ((collect.select answer).map Deed.handles).toList

/-- All that is done with answers is done with the one that the turn brought, as the answer to the
line before. -/
def Told (ds : List Deed) : Prop :=
  ds.filter Deed.ofAnswer = [] ∨
    ∃ lines answer collect, d.script.thread? cursor.thread = some lines ∧
      input.bind TurnInput.response = some answer ∧
      collectBefore lines cursor.index = some collect ∧
      d.AnswerStory answer collect (ds.filter Deed.ofAnswer)

/-- When hooks on the answer have moved the cursor, the next pass begins there, unless the budget is
used up. -/
def Redirected (ds : List Deed) (spot : Spot) : Prop :=
  ∀ earlier called answer moved, ds = earlier ++ [.changes called answer (some moved)] →
    moved ≠ cursor → ∃ left, budget = left + 1 ∧ (spot = .arriving left moved none ∨
      left = 0 ∧ ∃ l, spot = .returned (.error (.stepGuard d.id d.options.maxSteps l)))

/-! ### What is due -/

/-- What has to come before a deed. -/
def Due (earlier : List Deed) : Deed → Prop
  | .arrives c i => if earlier = [] then c = cursor ∧ i = input else i = none
  | .captures .. | .changes .. | .handles _ => FirstPass cursor input earlier
  | .performs c _ => c.index = 0 → d.JustEntered earlier c
  | .dispatches c _ => c.index = 0 →
      ∃ before line, earlier = before ++ [.performs c line] ∧ d.JustEntered before c
  | .after _ result => ∃ before status, earlier = before ++ [.finishes (some result) (.ok status)]
  | .before .. | .finishes .. => True

/-- After hooks on the answer have moved the cursor, only the next pass is due, and that there. -/
def DueThen (earlier : List Deed) (deed : Deed) : Prop :=
  ∀ before called answer moved, earlier = before ++ [.changes called answer (some moved)] →
    moved ≠ cursor → deed = .arrives moved none

/-- What the turn brought is still to come, or it is gone and what was done with it is told. -/
def Bringing (ds : List Deed) (left : ℕ) (lines : List Line) (p : Pass) : Prop :=
  (p.input = none ∧ d.Told cursor input ds) ∨
    (p = ⟨cursor, input⟩ ∧ d.script.thread? cursor.thread = some lines ∧ budget = left + 1 ∧
      FirstPass cursor input ds ∧ ds.filter Deed.ofAnswer = [])

/-- The answer that the turn brought is just dealt with. -/
structure Hearing (ds : List Deed) (left : ℕ) (lines : List Line) (p : Pass) (answer : Json)
    (collect : Collect) : Prop where
  pass : p = ⟨cursor, input⟩
  thread : d.script.thread? cursor.thread = some lines
  budget : budget = left + 1
  first : FirstPass cursor input ds
  response : input.bind TurnInput.response = some answer
  collect : collectBefore lines cursor.index = some collect

/-- What has been done at a spot, as far as it matters later on. -/
def Shape (ds : List Deed) : Spot → Prop
  | .starting _ => False
  | .arriving left c i => d.Told cursor input ds ∧
      (ds = [] ∧ left = budget ∧ c = cursor ∧ i = input ∨ ds ≠ [] ∧ i = none)
  | .entering left lines p => p.cursor.index = 0 ∧
      (∃ earlier, ds = earlier ++ [.arrives p.cursor p.input]) ∧
      d.Bringing budget cursor input ds left lines p
  | .settling left lines p => (p.cursor.index = 0 → d.JustEntered ds p.cursor) ∧ ds ≠ [] ∧
      d.Bringing budget cursor input ds left lines p
  | .announcing left lines p answer collect key =>
      d.Hearing budget cursor input ds left lines p answer collect ∧ collect.key = some key ∧
      ds.filter Deed.ofAnswer = [.captures key answer]
  | .selecting left lines p answer collect =>
      d.Hearing budget cursor input ds left lines p answer collect ∧
      ds.filter Deed.ofAnswer = match collect.key with
        | none => []
        | some key =>
          [.captures key answer, .changes (d.hooks.onChange key) answer (some cursor)]
  | .handling _ _ p _ => p.cursor.index ≠ 0 ∧ ds ≠ [] ∧ d.Told cursor input ds
  | .dispatching _ c _ (some _) => c.index ≠ 0 ∧ ds ≠ [] ∧ d.Told cursor input ds
  | .checking _ _ c | .performing _ c _ => (c.index = 0 → d.JustEntered ds c) ∧ ds ≠ [] ∧
      d.Told cursor input ds
  | .dispatching _ c _ none => (c.index = 0 → ∃ before line, ds = before ++ [.performs c line] ∧
      d.JustEntered before c) ∧ ds ≠ [] ∧ d.Told cursor input ds
  | .parting result => (∃ before status, ds = before ++ [.finishes (some result) (.ok status)]) ∧
      d.Told cursor input ds
  | .closing | .returned _ => d.Told cursor input ds

variable {d budget cursor input} {ds : List Deed}

/-! ### Small facts -/

theorem filter_concat (ds : List Deed) (deed : Deed) :
    (ds ++ [deed]).filter Deed.ofAnswer =
      ds.filter Deed.ofAnswer ++ if deed.ofAnswer then [deed] else [] := by
  rw [List.filter_append, List.filter_singleton]
  cases deed.ofAnswer <;> rfl

theorem Told.concat {deed : Deed} (h : d.Told cursor input ds) (hdeed : deed.ofAnswer = false) :
    d.Told cursor input (ds ++ [deed]) := by
  have hfilter : (ds ++ [deed]).filter Deed.ofAnswer = ds.filter Deed.ofAnswer := by
    rw [filter_concat, hdeed]
    exact List.append_nil _
  rw [Told, hfilter]
  exact h

theorem FirstPass.concat {deed : Deed} (h : FirstPass cursor input ds)
    (hdeed : deed.isArrival = false) : FirstPass cursor input (ds ++ [deed]) := by
  obtain ⟨rest, rfl, hrest⟩ := h
  refine ⟨rest ++ [deed], rfl, fun x hx => ?_⟩
  rcases List.mem_append.1 hx with hx | hx
  · exact hrest x hx
  · rw [List.mem_singleton.1 hx, hdeed]

theorem Bringing.told {left : ℕ} {lines : List Line} {p : Pass}
    (h : d.Bringing budget cursor input ds left lines p) : d.Told cursor input ds := by
  rcases h with ⟨-, h⟩ | ⟨-, -, -, -, h⟩
  · exact h
  · exact .inl h

theorem Bringing.concat {left : ℕ} {lines : List Line} {p : Pass} {deed : Deed}
    (h : d.Bringing budget cursor input ds left lines p) (hanswer : deed.ofAnswer = false)
    (harrival : deed.isArrival = false) :
    d.Bringing budget cursor input (ds ++ [deed]) left lines p := by
  rcases h with ⟨hp, h⟩ | ⟨hp, hlines, hleft, hfirst, h⟩
  · exact .inl ⟨hp, h.concat hanswer⟩
  · refine .inr ⟨hp, hlines, hleft, hfirst.concat harrival, ?_⟩
    rw [filter_concat, h, hanswer]
    rfl

/-- While an answer is dealt with, it is the one that the turn brought. -/
theorem Bringing.hearing {left : ℕ} {lines : List Line} {p : Pass} {answer : Json}
    {collect : Collect} (h : d.Bringing budget cursor input ds left lines p)
    (hanswer : p.answer = some answer)
    (hcollect : collectBefore lines p.cursor.index = some collect) :
    d.Hearing budget cursor input ds left lines p answer collect ∧
      ds.filter Deed.ofAnswer = [] := by
  rcases h with ⟨hp, -⟩ | ⟨rfl, hlines, hleft, hfirst, h⟩
  · rw [Pass.answer, hp] at hanswer
    cases hanswer
  · exact ⟨⟨rfl, hlines, hleft, hfirst, hanswer, hcollect⟩, h⟩

section

variable {left : ℕ} {lines : List Line} {p : Pass} {answer : Json} {collect : Collect}

theorem Hearing.concat {deed : Deed}
    (h : d.Hearing budget cursor input ds left lines p answer collect)
    (hdeed : deed.isArrival = false) :
    d.Hearing budget cursor input (ds ++ [deed]) left lines p answer collect :=
  { h with first := h.first.concat hdeed }

/-- No line comes before the first one, so it is not there that an answer is dealt with. -/
theorem Hearing.index_ne_zero (h : d.Hearing budget cursor input ds left lines p answer collect) :
    p.cursor.index ≠ 0 := by
  intro hzero
  have hcollect := h.collect
  rw [h.pass] at hzero
  rw [show cursor.index = 0 from hzero] at hcollect
  cases hcollect

theorem Hearing.told (h : d.Hearing budget cursor input ds left lines p answer collect)
    {ds' : List Deed} (hstory : d.AnswerStory answer collect (ds'.filter Deed.ofAnswer)) :
    d.Told cursor input ds' :=
  .inr ⟨lines, answer, collect, h.thread, h.response, h.collect, hstory⟩

theorem Hearing.ne_nil (h : d.Hearing budget cursor input ds left lines p answer collect) :
    ds ≠ [] := by
  obtain ⟨rest, rfl, -⟩ := h.first
  exact List.cons_ne_nil _ _

end

/-- At every spot it is told what has been done with answers. -/
theorem Shape.told {spot : Spot} (hshape : d.Shape budget cursor input ds spot) :
    d.Told cursor input ds := by
  cases spot with
  | starting => exact hshape.elim
  | arriving => exact hshape.1
  | entering => exact hshape.2.2.told
  | settling => exact hshape.2.2.told
  | announcing left lines p answer collect key =>
    obtain ⟨hhearing, hkey, hfilter⟩ := hshape
    refine hhearing.told ?_
    rw [hfilter, AnswerStory, hkey]
    exact ⟨[], none, List.nil_prefix, fun h => absurd rfl h, by simp⟩
  | selecting left lines p answer collect =>
    obtain ⟨hhearing, hfilter⟩ := hshape
    refine hhearing.told ?_
    rw [hfilter, AnswerStory]
    cases collect.key with
    | none => exact List.nil_prefix
    | some key => exact ⟨_, _, List.prefix_refl _, fun _ => rfl, List.prefix_append [_, _] _⟩
  | handling | checking | performing => exact hshape.2.2
  | dispatching left c action handled => cases handled <;> exact hshape.2.2
  | parting => exact hshape.2
  | closing | returned => exact hshape

/-! ### Deeds are due -/

section

variable {η : Type} {host : (r : Request) → η → Option (r.Answer × η)} {t t' : Stage η}

/-- **What is done at a stage is due.** -/
theorem Shape.due (h : d.Shape budget cursor input ds t.spot) {deed : Deed}
    (hdeed : d.deed? host t = some deed) : d.Due cursor input ds deed := by
  have hdoes := does_of_deed? hdeed
  generalize t.spot = spot at h hdoes
  cases hdoes with
  | arrives left c i =>
    obtain ⟨-, ⟨rfl, -, rfl, rfl⟩ | ⟨hne, rfl⟩⟩ := h
    · rw [Due, if_pos rfl]
      exact ⟨rfl, rfl⟩
    · rw [Due, if_neg hne]
  | before | finishes => trivial
  | captures hanswer hcollect hkey => exact (h.2.2.hearing hanswer hcollect).1.first
  | changes | handles => exact h.1.first
  | performs | dispatches | after => exact h.1

/-- After hooks on the answer have moved the cursor, what is done at a stage is that the next pass
begins there. -/
theorem Redirected.due (h : d.Redirected budget cursor ds t.spot) {deed : Deed}
    (hdeed : d.deed? host t = some deed) : DueThen cursor ds deed := by
  intro before called answer moved hds hmoved
  have hdoes := does_of_deed? hdeed
  generalize t.spot = spot at h hdoes
  obtain ⟨left, -, rfl | ⟨-, l, rfl⟩⟩ := h before called answer moved hds hmoved
  · cases hdoes
    rfl
  · cases hdoes

/-! ### From stage to stage -/

theorem next?_arriving_zero {c : Location} {i : Option TurnInput} {s : Session} {w : η}
    (h : d.next? host ⟨.arriving 0 c i, s, w⟩ = some t') :
    t'.spot = .returned (.error (.stepGuard d.id d.options.maxSteps s.location)) := by
  obtain ⟨o, hrun, hspot⟩ := exists_runWith_of_next? h
  have hthrow : runWith host (d.stride (.arriving 0 c i)) s w =
      some ((.error (.stepGuard d.id d.options.maxSteps s.location), s), w) :=
    runWith_bind_of_ok rfl _
  obtain ⟨hpair, -⟩ := Prod.mk.inj (Option.some.inj (hrun.symm.trans hthrow))
  obtain ⟨rfl, -⟩ := Prod.mk.inj hpair
  exact hspot

/-- **From one stage to the next**, a run goes where hooks on the answer have moved the cursor. -/
theorem Redirected.next (h : d.Redirected budget cursor ds t.spot)
    (hshape : d.Shape budget cursor input ds t.spot) (hnext : d.next? host t = some t') :
    d.Redirected budget cursor (ds ++ (d.deed? host t).toList) t'.spot := by
  intro earlier called answer moved hds hmoved
  cases hdeed : d.deed? host t with
  | none =>
    -- nothing is done although the hooks have just moved the cursor: the budget is used up
    rw [hdeed, Option.toList_none, List.append_nil] at hds
    obtain ⟨spot, s, w⟩ := t
    obtain ⟨left, hbudget, rfl | ⟨-, l, rfl⟩⟩ := h earlier called answer moved hds hmoved
    · cases left with
      | zero => exact ⟨0, hbudget, .inr ⟨rfl, _, next?_arriving_zero hnext⟩⟩
      | succ left => cases hdeed
    · cases hnext
  | some deed =>
    -- the hooks have moved the cursor at this very stage
    rw [hdeed, Option.toList_some] at hds
    obtain ⟨-, hlast⟩ := List.append_inj' hds rfl
    obtain rfl := List.head_eq_of_cons_eq hlast
    obtain ⟨spot, s, w⟩ := t
    have hdoes : Does spot (.changes called answer (some moved)) := does_of_deed? hdeed
    cases hdoes with
    | changes left lines p _ collect key =>
      obtain ⟨called', moved', hchanges, hleads⟩ := exists_changes_of_next? hnext
      rw [hdeed] at hchanges
      cases hchanges
      obtain rfl : p = ⟨cursor, input⟩ := hshape.1.pass
      generalize t'.spot = spot at hleads ⊢
      cases hleads with
      | moved => exact ⟨left, hshape.1.budget, .inl rfl⟩
      | stayed => exact absurd rfl hmoved

theorem concat_ne_nil (ds : List Deed) (deed : Deed) : ds ++ [deed] ≠ [] :=
  List.append_ne_nil_of_right_ne_nil _ (List.cons_ne_nil _ _)

section

variable {left : ℕ} {lines : List Line} {p : Pass} {answer : Json} {collect : Collect} {s : Session}
  {w : η}

/-- The answer is captured, or passed on, or there is none. -/
theorem Shape.next_settling (h : d.Shape budget cursor input ds (.settling left lines p))
    (hnext : d.next? host ⟨.settling left lines p, s, w⟩ = some t') :
    d.Shape budget cursor input
      (ds ++ (d.deed? host ⟨.settling left lines p, s, w⟩).toList) t'.spot := by
  obtain ⟨hentered, hne, hbringing⟩ := h
  -- without an answer, or a line that asked for one, nothing is done
  have hunanswered (hstride : d.stride (.settling left lines p) = pure (.checking left lines
      p.cursor)) (hdeed : d.deed? host ⟨.settling left lines p, s, w⟩ = none) :
      d.Shape budget cursor input
        (ds ++ (d.deed? host ⟨.settling left lines p, s, w⟩).toList) t'.spot := by
    rw [next?_of_stride_eq_pure (fun _ h => by cases h) hstride] at hnext
    obtain rfl := Option.some.inj hnext
    rw [hdeed, Option.toList_none, List.append_nil]
    exact ⟨hentered, hne, hbringing.told⟩
  cases hanswer : p.answer with
  | none => exact hunanswered (by simp only [stride, hanswer]) (by simp only [deed?, hanswer])
  | some answer =>
    cases hcollect : collectBefore lines p.cursor.index with
    | none =>
      exact hunanswered (by simp only [stride, hanswer, hcollect])
        (by simp only [deed?, hanswer, hcollect])
    | some collect =>
      obtain ⟨hhearing, hfilter⟩ := hbringing.hearing hanswer hcollect
      cases hkey : collect.key with
      | none =>
        have hstride : d.stride (.settling left lines p) =
            pure (.selecting left lines p answer collect) := by
          simp only [stride, hanswer, hcollect, hkey]
        have hdeed : d.deed? host ⟨.settling left lines p, s, w⟩ = none := by
          simp only [deed?, hanswer, hcollect, hkey, Option.map_none]
        rw [next?_of_stride_eq_pure (fun _ h => by cases h) hstride] at hnext
        obtain rfl := Option.some.inj hnext
        rw [hdeed, Option.toList_none, List.append_nil]
        refine ⟨hhearing, ?_⟩
        rw [hkey, hfilter]
      | some key =>
        have hstride : d.stride (.settling left lines p) = (do
            capture key answer collect.multiple
            pure (.announcing left lines p answer collect key)) := by
          simp only [stride, hanswer, hcollect, hkey]
        have hdeed : d.deed? host ⟨.settling left lines p, s, w⟩ =
            some (.captures key answer) := by
          simp only [deed?, hanswer, hcollect, hkey, Option.map_some]
        rw [next?_of_runWith (fun _ h => by cases h) (hstride ▸ runWith_bind_of_ok rfl _)] at hnext
        obtain rfl := Option.some.inj hnext
        rw [hdeed, Option.toList_some]
        refine ⟨hhearing.concat rfl, hkey, ?_⟩
        rw [filter_concat, hfilter]
        rfl

theorem Shape.next_announcing {key : String}
    (h : d.Shape budget cursor input ds (.announcing left lines p answer collect key))
    (hnext : d.next? host ⟨.announcing left lines p answer collect key, s, w⟩ = some t') :
    d.Shape budget cursor input
      (ds ++ (d.deed? host ⟨.announcing left lines p answer collect key, s, w⟩).toList)
      t'.spot := by
  obtain ⟨hhearing, hkey, hfilter⟩ := h
  obtain ⟨called, moved, hdeed, hleads⟩ := exists_changes_of_next? hnext
  rw [hdeed, Option.toList_some]
  have hfilter : (ds ++ [Deed.changes called answer moved]).filter Deed.ofAnswer =
      [.captures key answer, .changes called answer moved] := by
    rw [filter_concat, hfilter]
    rfl
  have htold (hcalled : called <+: d.hooks.onChange key)
      (hall : moved ≠ none → called = d.hooks.onChange key) :
      d.Told cursor input (ds ++ [.changes called answer moved]) := by
    refine hhearing.told ?_
    rw [hfilter, AnswerStory, hkey]
    exact ⟨called, moved, hcalled, hall, List.prefix_append _ _⟩
  generalize t'.spot = spot at hleads
  cases hleads with
  | failed hbegins => exact htold hbegins fun h => absurd rfl h
  | moved =>
    exact ⟨htold (List.prefix_refl _) fun _ => rfl, .inr ⟨concat_ne_nil _ _, rfl⟩⟩
  | stayed =>
    refine ⟨hhearing.concat rfl, ?_⟩
    rw [hfilter, hkey, hhearing.pass]

/-- The answer is handed to the handler that is selected. -/
theorem Shape.next_selecting
    (h : d.Shape budget cursor input ds (.selecting left lines p answer collect))
    (hnext : d.next? host ⟨.selecting left lines p answer collect, s, w⟩ = some t') :
    d.Shape budget cursor input
      (ds ++ (d.deed? host ⟨.selecting left lines p answer collect, s, w⟩).toList) t'.spot := by
  obtain ⟨hhearing, hfilter⟩ := h
  have hindex := hhearing.index_ne_zero
  have hdeed : d.deed? host ⟨.selecting left lines p answer collect, s, w⟩ =
      (collect.select answer).map .handles := rfl
  have hne : ds ++ ((collect.select answer).map Deed.handles).toList ≠ [] :=
    List.append_ne_nil_of_left_ne_nil hhearing.ne_nil _
  have htold : d.Told cursor input
      (ds ++ ((collect.select answer).map Deed.handles).toList) := by
    refine hhearing.told ?_
    have hhandles : (((collect.select answer).map Deed.handles).toList).filter Deed.ofAnswer =
        ((collect.select answer).map Deed.handles).toList := by
      cases collect.select answer <;> rfl
    rw [List.filter_append, hfilter, hhandles, AnswerStory]
    cases collect.key with
    | none => exact List.prefix_refl _
    | some key => exact ⟨_, _, List.prefix_refl _, fun _ => rfl, List.prefix_refl _⟩
  rw [hdeed]
  rcases next_of_next? hnext with hspot | ⟨e, hspot⟩
  · generalize t'.spot = spot at hspot
    cases hspot with
    | call | act => exact ⟨hindex, hne, htold⟩
    | unhandled => exact ⟨fun hzero => absurd hzero hindex, hne, htold⟩
  · rw [hspot]
    exact htold

theorem Shape.next_dispatching {c : Location} {action : Action} {handled : Option (List Line)}
    (h : d.Shape budget cursor input ds (.dispatching left c action handled))
    (hnext : d.next? host ⟨.dispatching left c action handled, s, w⟩ = some t') :
    d.Shape budget cursor input
      (ds ++ (d.deed? host ⟨.dispatching left c action handled, s, w⟩).toList) t'.spot := by
  obtain ⟨ds', hds', htold, hne⟩ : ∃ ds',
      ds ++ (d.deed? host ⟨.dispatching left c action handled, s, w⟩).toList = ds' ∧
        d.Told cursor input ds' ∧ ds' ≠ [] := by
    cases handled with
    | none => exact ⟨_, rfl, h.2.2.concat rfl, concat_ne_nil _ _⟩
    | some lines => exact ⟨_, List.append_nil ds, h.2.2, h.2.1⟩
  rw [hds']
  rcases next_of_next? hnext with hspot | ⟨e, hspot⟩
  · generalize t'.spot = spot at hspot
    cases hspot with
    | close | stop => exact htold
    | jump => exact ⟨htold, .inr ⟨hne, rfl⟩⟩
    | goOn => exact ⟨fun hzero => absurd hzero h.1, hne, htold⟩
  · rw [hspot]
    exact htold

/-- A pass begins with the hooks before the thread, or at a line behind the first one. -/
theorem Shape.next_arriving {c : Location} {i : Option TurnInput}
    (h : d.Shape budget cursor input ds (.arriving left c i))
    (hnext : d.next? host ⟨.arriving left c i, s, w⟩ = some t') :
    d.Shape budget cursor input
      (ds ++ (d.deed? host ⟨.arriving left c i, s, w⟩).toList) t'.spot := by
  cases left with
  | zero =>
    rw [next?_arriving_zero hnext]
    exact (List.append_nil ds).symm ▸ h.1
  | succ left =>
    have htold : d.Told cursor input (ds ++ [.arrives c i]) := h.1.concat rfl
    cases hlines : d.script.thread? c.thread with
    | none =>
      rw [next?_arriving_of_thread?_eq_none hlines] at hnext
      obtain rfl := Option.some.inj hnext
      exact htold
    | some lines =>
      rw [next?_arriving hlines] at hnext
      obtain rfl := Option.some.inj hnext
      have hbringing : d.Bringing budget cursor input (ds ++ [.arrives c i]) left lines
          ⟨c, i⟩ := by
        obtain ⟨-, ⟨rfl, rfl, rfl, rfl⟩ | ⟨hne, rfl⟩⟩ := h
        · exact .inr ⟨rfl, hlines, rfl, ⟨[], rfl, fun _ hx => absurd hx List.not_mem_nil⟩, rfl⟩
        · exact .inl ⟨rfl, htold⟩
      by_cases hzero : c.index = 0
      · simp only [hzero, if_true]
        exact ⟨hzero, ⟨ds, rfl⟩, hbringing⟩
      · simp only [hzero, if_false]
        exact ⟨fun h => absurd h hzero, concat_ne_nil _ _, hbringing⟩

/-- The hooks before the thread leave the cursor where the pass has begun, or move it. -/
theorem Shape.next_entering (h : d.Shape budget cursor input ds (.entering left lines p))
    (hnext : d.next? host ⟨.entering left lines p, s, w⟩ = some t') :
    d.Shape budget cursor input
      (ds ++ (d.deed? host ⟨.entering left lines p, s, w⟩).toList) t'.spot := by
  obtain ⟨called, moved, hdeed, hleads⟩ := exists_before_of_next? hnext
  rw [hdeed, Option.toList_some]
  obtain ⟨-, ⟨earlier, rfl⟩, hbringing⟩ := h
  have hbringing : d.Bringing budget cursor input
      (earlier ++ [.arrives p.cursor p.input] ++ [.before called moved]) left lines p :=
    hbringing.concat rfl rfl
  generalize t'.spot = spot at hleads
  cases hleads with
  | failed => exact hbringing.told
  | moved => exact ⟨hbringing.told, .inr ⟨concat_ne_nil _ _, rfl⟩⟩
  | stayed =>
    refine ⟨fun _ => ⟨earlier, p.input, ?_⟩, concat_ne_nil _ _, hbringing⟩
    rw [List.append_assoc]
    rfl

theorem Shape.next_closing (h : d.Shape budget cursor input ds .closing)
    (hnext : d.next? host ⟨.closing, s, w⟩ = some t') :
    d.Shape budget cursor input (ds ++ (d.deed? host ⟨.closing, s, w⟩).toList) t'.spot := by
  obtain ⟨result, answer, hdeed, hspot⟩ := exists_finishes_of_next? hnext
  rw [hdeed, Option.toList_some, hspot]
  have htold : d.Told cursor input (ds ++ [.finishes result answer]) := Told.concat h rfl
  cases answer with
  | error e => exact htold
  | ok status =>
    cases result with
    | none => exact htold
    | some result => exact ⟨⟨ds, status, rfl⟩, htold⟩

end

/-- **From one stage to the next**, the shape is kept. -/
theorem Shape.next (h : d.Shape budget cursor input ds t.spot)
    (hnext : d.next? host t = some t') :
    d.Shape budget cursor input (ds ++ (d.deed? host t).toList) t'.spot := by
  obtain ⟨spot, s, w⟩ := t
  cases spot with
  | starting task => exact h.elim
  | returned outcome => cases hnext
  | arriving left c i => exact Shape.next_arriving h hnext
  | entering left lines p => exact Shape.next_entering h hnext
  | settling left lines p => exact Shape.next_settling h hnext
  | announcing left lines p answer collect key => exact Shape.next_announcing h hnext
  | selecting left lines p answer collect => exact Shape.next_selecting h hnext
  | handling left lines p callback =>
    have hdeed : d.deed? host ⟨.handling left lines p callback, s, w⟩ = none := rfl
    rw [hdeed, Option.toList_none, List.append_nil]
    obtain ⟨hindex, hne, htold⟩ := h
    rcases next_of_next? hnext with hspot | ⟨e, hspot⟩
    · generalize t'.spot = spot at hspot
      cases hspot with
      | handled => exact ⟨fun hzero => absurd hzero hindex, hne, htold⟩
      | handedOver => exact htold
      | redirectedHandler => exact ⟨htold, .inr ⟨hne, rfl⟩⟩
    · rw [hspot]
      exact htold
  | checking left lines c =>
    have hdeed : d.deed? host ⟨.checking left lines c, s, w⟩ = none := rfl
    rw [hdeed, Option.toList_none, List.append_nil]
    rcases next_of_next? hnext with hspot | ⟨e, hspot⟩
    · generalize t'.spot = spot at hspot
      cases hspot with
      | finish => exact h.2.2
      | perform => exact h
    · rw [hspot]
      exact h.2.2
  | performing left c line =>
    have hdeed : d.deed? host ⟨.performing left c line, s, w⟩ = some (.performs c line) := rfl
    rw [hdeed, Option.toList_some]
    have htold : d.Told cursor input (ds ++ [.performs c line]) := h.2.2.concat rfl
    rcases next_of_next? hnext with hspot | ⟨e, hspot⟩
    · generalize t'.spot = spot at hspot
      cases hspot with
      | asked => exact htold
      | performed => exact ⟨htold, .inr ⟨concat_ne_nil _ _, rfl⟩⟩
      | dispatch => exact ⟨fun hzero => ⟨ds, line, rfl, h.1 hzero⟩, concat_ne_nil _ _, htold⟩
    · rw [hspot]
      exact htold
  | dispatching left c action handled => exact Shape.next_dispatching h hnext
  | closing => exact Shape.next_closing h hnext
  | parting result =>
    obtain ⟨called, hdeed, -, hspot⟩ := exists_after_of_next? hnext
    rw [hdeed, Option.toList_some]
    have htold : d.Told cursor input (ds ++ [.after called result]) := h.2.concat rfl
    rcases hspot with ⟨-, hspot⟩ | ⟨_, -, -, e, hspot, -⟩
    · rw [hspot]
      exact htold
    · rw [hspot]
      exact htold

end

end Dialog

end Parley

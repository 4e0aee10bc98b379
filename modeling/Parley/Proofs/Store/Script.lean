import Parley.Proofs.Course.Law
import Parley.Proofs.Reading.Record

/-!
# What scripts put into their variables

The variables of a session hold what it was launched with and what it has captured since: texts that
came in, and the variables of dialogs that have ended, as objects.  So if all values that reach a
session read back, all values that it keeps or hands on do: those of its variables, those it
launches other dialogs with and those of its result.  Variables that grow nest deeper and deeper,
but nothing in them is lost on the way to a text and back.

This is a law of runs (`Dialog.faithful_law`), so it holds whatever the requests of a run are
answered, and also if the run fails.
-/

namespace Parley

/-! ### What reads back -/

/-- The variables of a session and those it was launched with read back. -/
structure Session.Faithful (s : Session) : Prop where
  values : (Json.object s.values).Exact
  options : s.options.Exact

theorem Session.Exact.faithful {s : Session} (h : s.Exact) : s.Faithful := ⟨h.values, h.options⟩

/-- A result whose values read back. -/
def DialogResult.Exact (r : DialogResult) : Prop := (Json.object r.values).Exact

/-- What a request hands on reads back. -/
def Request.Faithful : Request → Prop
  | .begin _ options | .replace _ options => options.Exact
  | .finish result => ∀ r, result = some r → r.Exact
  | _ => True

/-- The answer in a turn input reads back. -/
def TurnInput.Faithful (input : Option TurnInput) : Prop :=
  ∀ answer, input.bind TurnInput.response = some answer → answer.Exact

theorem Json.exact_string (s : String) : (Json.string s).Exact := ⟨trivial, trivial⟩

theorem Json.exact_object_nil : (Json.object []).Exact := ⟨⟨.nil, trivial⟩, trivial⟩

theorem Json.exact_object_insert {vars : Vars} (h : (Json.object vars).Exact) (key : String)
    {v : Json} (hv : v.Exact) : (Json.object (Keyed.insert vars key v)).Exact := by
  obtain ⟨⟨hsorted, hordered⟩, hintegral⟩ := h
  refine ⟨⟨Keyed.insert_sorted hsorted key v, orderedMembers_iff.2 fun m hm => ?_⟩,
    integralMembers_iff.2 fun m hm => ?_⟩
  · rcases Keyed.mem_insert hm with rfl | hm
    · exact hv.ordered
    · exact orderedMembers_iff.1 hordered m hm
  · rcases Keyed.mem_insert hm with rfl | hm
    · exact hv.integral
    · exact integralMembers_iff.1 hintegral m hm

/-! ### Scripts -/

namespace Dialog

/-- A captured answer is a text, or the answer itself. -/
theorem exact_captured (vars : Vars) (key : String) {answer : Json} (h : answer.Exact)
    (multiple : Bool) : (captured vars key answer multiple).Exact := by
  unfold captured
  split
  · split
    · exact Json.exact_string _
    · exact h
  · exact h

/-- **Values that read back are a law of runs.**  A session keeps texts, values that came in and
objects of values, and it hands its variables on as they are. -/
theorem faithful_law (d : Dialog) :
    d.Law Session.Faithful Request.Faithful fun _ => TurnInput.Faithful where
  congr hs hvalues hoptions := ⟨hvalues ▸ hs.values, hoptions ▸ hs.options⟩
  capture {s _ _ answer collect key} hs hfaithful hanswer _ _ :=
    ⟨Json.exact_object_insert hs.values key
      (exact_captured s.values key (hfaithful answer hanswer) collect.multiple), hs.options⟩
  nothing _ _ hanswer := by cases hanswer
  begin _ hs := hs.values
  replace _ hs := hs.values
  finish hs := by
    rintro _ ⟨⟩
    exact hs.values
  removed := by
    rintro _ ⟨⟩

end Dialog

end Parley

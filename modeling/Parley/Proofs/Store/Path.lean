import Mathlib.Data.List.Basic
import Parley.Disk.Path

/-!
# What paths say

A path is known by its segments (`Path.segments_injective`).  Those that are idle, the empty ones
and the single dots, lead nowhere, and if none of the others leads up they all lead to names
(`Path.filterMap_stepOf?`).

Joining a path to another one goes on from where the other one leads (`Path.steps_join`), whatever
slashes and dots the two end and begin with, as long as the second one begins with a name.
-/

namespace Parley

theorem Text.eq_splitOn {separator : Char} {cut : List Char → List (List Char)}
    (hnil : cut [] = [[]])
    (hcons : ∀ c rest, cut (c :: rest) =
      if c = separator then [] :: cut rest
      else match cut rest with
        | [] => [[c]]
        | first :: more => (c :: first) :: more) (cs : List Char) :
    cut cs = cs.splitOn separator := by
  rw [List.splitOn_eq_splitOnP]
  induction cs with
  | nil => exact hnil
  | cons c rest ih =>
    rw [List.splitOnP_cons_eq_if_modifyHead, hcons, ih]
    by_cases hc : c = separator
    · simp [hc]
    · rw [if_neg hc, if_neg (by simpa using hc)]
      cases hrest : List.splitOnP (fun c => c == separator) rest with
      | nil => exact absurd hrest (List.splitOnP_ne_nil _ rest)
      | cons first more => rfl

namespace Path

/-! ### Segments -/

/-- A segment that leads nowhere: an empty one, or a single dot. -/
def Idle (segment : String) : Prop := segment = "" ∨ segment = "."

instance : DecidablePred Idle := fun segment =>
  inferInstanceAs (Decidable (segment = "" ∨ segment = "."))

/-- The segments that lead somewhere. -/
def moving (segments : List String) : List String := segments.filter fun segment => ¬ Idle segment

theorem moving_cons_of_idle {segment : String} (h : Idle segment) (rest : List String) :
    moving (segment :: rest) = moving rest := List.filter_cons_of_neg (by simpa using h)

theorem moving_cons_of_not_idle {segment : String} (h : ¬ Idle segment) (rest : List String) :
    moving (segment :: rest) = segment :: moving rest := List.filter_cons_of_pos (by simpa using h)

theorem segments_ne_nil (path : String) : segments path ≠ [] :=
  fun h => cut_ne_nil path.toList (List.map_eq_nil_iff.1 h)

theorem cut_eq_splitOn (cs : List Char) : cut cs = cs.splitOn separator :=
  Text.eq_splitOn rfl (fun _ _ => rfl) cs

/-- A path is its segments with slashes between them. -/
theorem segments_injective : Function.Injective segments := by
  intro path path' h
  have hcut : cut path.toList = cut path'.toList :=
    List.map_injective_iff.2 (fun _ _ => String.ofList_injective) h
  have hjoin (path : String) : [separator].intercalate (cut path.toList) = path.toList := by
    rw [cut_eq_splitOn, List.intercalate_splitOn]
  rw [← String.toList_inj, ← hjoin path, ← hjoin path', hcut]

theorem exists_cut (cs : List Char) :
    separator ∉ cs ∨ ∃ front back, cs = front ++ separator :: back ∧ separator ∉ back := by
  by_cases h : separator ∈ cs.reverse
  · obtain ⟨back, front, hcs, hback⟩ := List.eq_append_cons_of_mem h
    refine .inr ⟨front.reverse, back.reverse, ?_, fun h => hback (List.mem_reverse.1 h)⟩
    rw [← List.reverse_reverse cs, hcs]
    simp
  · exact .inl fun hcs => h (List.mem_reverse.2 hcs)

theorem segments_append {path suffix last : String} {front : List String}
    (h : segments path = front ++ [last]) (hsuffix : separator ∉ suffix.toList) :
    segments (path ++ suffix) = front ++ [last ++ suffix] := by
  have hplain {cs : List Char} (hcs : separator ∉ cs) :
      cut (cs ++ suffix.toList) = [cs ++ suffix.toList] := cut_of_plain (by simp [hcs, hsuffix])
  rw [segments] at h
  rw [segments, String.toList_append]
  rcases exists_cut path.toList with hpath | ⟨before, back, hpath, hback⟩
  · rw [cut_of_plain hpath] at h
    have hsplit : [] ++ [String.ofList path.toList] = front ++ [last] := h
    obtain ⟨rfl, hlast⟩ := List.append_inj' hsplit rfl
    obtain rfl := (List.cons.inj hlast).1
    rw [hplain hpath]
    simp
  · rw [hpath, cut_append, cut_of_plain hback, List.map_append] at h
    obtain ⟨rfl, hlast⟩ := List.append_inj' h rfl
    obtain rfl := (List.cons.inj hlast).1
    rw [hpath, List.append_assoc, List.cons_append, cut_append, hplain hback, List.map_append]
    simp

theorem exists_segments (path : String) : ∃ front last, segments path = front ++ [last] := by
  rcases List.eq_nil_or_concat (segments path) with h | ⟨front, last, h⟩
  · exact absurd h (segments_ne_nil path)
  · exact ⟨front, last, h.trans List.concat_eq_append⟩

/-! ### Steps -/

theorem stepOf?_of_idle {segment : String} (h : Idle segment) : stepOf? segment = none := if_pos h

theorem stepOf?_of_not_idle {segment : String} (h : ¬ Idle segment) (hparent : segment ≠ "..") :
    stepOf? segment = some (.name segment) := by
  unfold Idle at h
  rw [stepOf?, if_neg h, if_neg hparent]

theorem filterMap_stepOf? {segments : List String} (h : ".." ∉ segments) :
    segments.filterMap stepOf? = (moving segments).map Step.name := by
  induction segments with
  | nil => rfl
  | cons segment rest ih =>
    simp only [List.mem_cons, not_or] at h
    by_cases hidle : Idle segment
    · rw [List.filterMap_cons_none (stepOf?_of_idle hidle), ih h.2, moving_cons_of_idle hidle]
    · rw [List.filterMap_cons_some (stepOf?_of_not_idle hidle (Ne.symm h.1)), ih h.2,
        moving_cons_of_not_idle hidle, List.map_cons]

theorem origin_cons (first : String) (rest : List String) :
    origin (first :: rest) =
      if first = "" then (if rest = [] then [] else [.root])
      else if first = "." then [.current] else [] := by
  cases rest with
  | nil => unfold origin; split <;> simp_all
  | cons next more => unfold origin; split <;> simp_all

/-- How a path begins is seen from its first segment and whether there is another one. -/
theorem origin_append {front more more' : List String} (hfront : front ≠ []) (hmore : more ≠ [])
    (hmore' : more' ≠ []) : origin (front ++ more) = origin (front ++ more') := by
  obtain ⟨first, rest, rfl⟩ := List.exists_cons_of_ne_nil hfront
  rw [List.cons_append, List.cons_append, origin_cons, origin_cons,
    if_neg (List.append_ne_nil_of_right_ne_nil rest hmore),
    if_neg (List.append_ne_nil_of_right_ne_nil rest hmore')]

theorem origin_append_of_ne {front : List String} (hfront : front ≠ []) (hne : front ≠ [""])
    (more : List String) : origin (front ++ more) = origin front := by
  obtain ⟨first, rest, rfl⟩ := List.exists_cons_of_ne_nil hfront
  rw [List.cons_append, origin_cons, origin_cons]
  by_cases hfirst : first = ""
  · have hrest : rest ≠ [] := fun h => hne (by rw [hfirst, h])
    rw [if_neg hrest, if_neg (List.append_ne_nil_of_left_ne_nil hrest more)]
  · rw [if_neg hfirst, if_neg hfirst]

theorem origin_of_isAbsolute {path : String} (h : isAbsolute path = true) :
    origin (segments path) = [.root] := by
  have hhead : path.toList.head? = some separator := of_decide_eq_true h
  obtain ⟨rest, hpath⟩ := List.head?_eq_some_iff.1 hhead
  rw [segments, hpath, cut, if_pos rfl, List.map_cons, origin_cons]
  simp [cut_ne_nil]

theorem isAbsolute_of_origin {path : String} (h : origin (segments path) = []) :
    isAbsolute path = false := by
  by_contra habsolute
  rw [origin_of_isAbsolute (by simpa using habsolute)] at h
  cases h

/-- A path that only leads down does not begin at the root or with a dot, and nowhere leads up. -/
theorem descends_iff {path : String} : (∀ step ∈ steps path, Descends step) ↔
    origin (segments path) = [] ∧ ".." ∉ segments path := by
  have horigin (all : List String) (step : Step) (h : step ∈ origin all) : ¬ Descends step := by
    cases all with
    | nil => cases h
    | cons first rest =>
      rw [origin_cons] at h
      split at h
      · split at h
        · cases h
        · rw [List.mem_singleton.1 h]
          exact id
      · split at h
        · rw [List.mem_singleton.1 h]
          exact id
        · cases h
  rw [steps]
  constructor
  · refine fun h => ⟨List.eq_nil_iff_forall_not_mem.2 fun step hstep =>
      horigin _ step hstep (h step (List.mem_append_left _ hstep)), fun hparent => ?_⟩
    exact h .parent (List.mem_append_right _ (List.mem_filterMap.2 ⟨"..", hparent, rfl⟩))
  · rintro ⟨hnil, hparent⟩ step hstep
    rw [hnil, List.nil_append, filterMap_stepOf? hparent] at hstep
    obtain ⟨name, -, rfl⟩ := List.mem_map.1 hstep
    exact trivial

/-! ### Joining -/

/-- The segments of a path that is joined to another one come behind those of the other one, but for
an empty one with which the other one ends. -/
theorem exists_segments_join {base path : String} (hbase : base ≠ "")
    (hpath : isAbsolute path = false) : ∃ front, front ≠ [] ∧
      segments (join base path) = front ++ segments path ∧
        (segments base = front ++ [""] ∨ segments base = front ∧ front ≠ [""]) := by
  unfold join
  rw [if_neg (by simp [hpath, hbase])]
  split
  · next hlast =>
    obtain ⟨before, hbefore⟩ := List.getLast?_eq_some_iff.1 hlast
    refine ⟨(cut before).map String.ofList, ?_, ?_, .inl ?_⟩
    · simpa using cut_ne_nil before
    · rw [segments, String.toList_append, hbefore, List.append_assoc, List.singleton_append,
        cut_append, List.map_append, segments]
    · rw [segments, hbefore, cut_append, List.map_append]
      rfl
  · refine ⟨segments base, segments_ne_nil base, ?_, .inr ⟨rfl, fun h => hbase ?_⟩⟩
    · rw [segments, String.toList_append, String.toList_append, String.toList_ofList,
        List.append_assoc, List.singleton_append, cut_append, List.map_append, segments, segments]
    · exact segments_injective h

theorem isAbsolute_join {base path : String} (hbase : base ≠ "") (hpath : isAbsolute path = false) :
    isAbsolute (join base path) = isAbsolute base := by
  obtain ⟨c, rest, hlist⟩ := List.exists_cons_of_ne_nil
    (fun h : base.toList = [] => hbase (String.toList_eq_nil_iff.1 h))
  unfold join
  rw [if_neg (by simp [hpath, hbase])]
  split <;> simp [isAbsolute, hlist]

/-- A path that is joined to another one goes on from where the other one leads. -/
theorem steps_join {base path : String} (h : origin (segments path) = []) :
    steps (join base path) = steps base ++ (segments path).filterMap stepOf? := by
  have hpath := isAbsolute_of_origin h
  by_cases hbase : base = ""
  · rw [join, if_pos (.inr hbase), hbase, steps, h]
    rfl
  · obtain ⟨front, hfront, hjoin, hend | ⟨hend, hne⟩⟩ := exists_segments_join hbase hpath
    · rw [steps, steps, hjoin, hend, origin_append hfront (segments_ne_nil path)
        (List.cons_ne_nil "" []), List.filterMap_append, List.filterMap_append,
        List.append_assoc, List.append_assoc]
      rfl
    · rw [steps, steps, hjoin, hend, origin_append_of_ne hfront hne, List.filterMap_append,
        List.append_assoc]

end Path

end Parley

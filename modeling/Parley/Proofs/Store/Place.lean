import Parley.Command.Record
import Parley.Proofs.Store.Path
import Parley.Proofs.Store.Writing

/-!
# Where state files are

The state file of a conversation is at the path of its storage key below the state directory.  A key
is made of what users type, so it may have any number of slashes and dots in it.  Those that lead
somewhere else are refused by `StateFile.path`; the others lead nowhere, since empty segments and
single dots stay where they are.  What is left is the *trail* of the key (`StateFile.trail`).

* `StateFile.stays_inside` : paths of state files lead down from the state directory, and nothing
  else is changed by writing to them.
* `StateFile.same_file_iff` : two keys have one file just when they have one trail.  For keys
  without idle segments this is when they are equal; in general it is not
  (`StateFile.slash_shares_file`).
-/

namespace Parley

/-! ### Walking -/

namespace Volume

open Parley.Path (segments moving moving_cons_of_idle moving_cons_of_not_idle Idle)

variable {v : Volume} {place : List String}

/-- Where the segments of a path lead, be it usable or not. -/
def walk (v : Volume) (path : String) : Option (List String) :=
  (segments path).foldlM v.enter (v.beginning path)

theorem walk_of_locate {path : String} (h : v.locate path = some place) :
    v.walk path = some place := by
  unfold locate at h
  split at h
  · exact h
  · cases h

theorem enter_of_idle (hplace : v.root.HasDirectory place) {segment : String}
    (h : Idle segment) : v.enter place segment = some place := by
  obtain ⟨entries, hplace⟩ := hplace
  rw [enter, hplace, Path.stepOf?_of_idle h]

theorem enter_of_not_idle {segment : String} {next : List String} (h : ¬ Idle segment)
    (hparent : segment ≠ "..") (henter : v.enter place segment = some next) :
    next = place ++ [segment] := by
  obtain ⟨entries, hplace⟩ := hasDirectory_of_enter henter
  rw [enter, hplace, Path.stepOf?_of_not_idle h hparent] at henter
  exact (Option.some.inj henter).symm

/-- Segments that do not lead up lead down. -/
theorem eq_append_of_foldlM_enter {segments last : List String}
    (h : segments.foldlM v.enter place = some last) (hparent : ".." ∉ segments) :
    last = place ++ moving segments := by
  induction segments generalizing place with
  | nil => exact (Option.some.inj h).symm.trans (List.append_nil place).symm
  | cons segment rest ih =>
    simp only [List.mem_cons, not_or] at hparent
    rw [List.foldlM_cons] at h
    obtain ⟨next, henter, hrest⟩ := Option.bind_eq_some_iff.1 h
    rw [ih hrest hparent.2]
    by_cases hidle : Idle segment
    · rw [enter_of_idle (hasDirectory_of_enter henter) hidle] at henter
      obtain rfl := Option.some.inj henter
      rw [moving_cons_of_idle hidle]
    · rw [enter_of_not_idle hidle (Ne.symm hparent.1) henter, moving_cons_of_not_idle hidle,
        List.append_assoc, List.singleton_append]

theorem walk_join {base path : String} (hpath : Path.isAbsolute path = false)
    (h : v.walk (Path.join base path) = some place) :
    ∃ start, v.walk base = some start ∧ (segments path).foldlM v.enter start = some place := by
  -- segments lead on from directories only, so an empty one before them makes no difference
  have hempty {start : List String} (hrest : (segments path).foldlM v.enter start = some place) :
      v.enter start "" = some start := by
    obtain ⟨first, rest, hsegments⟩ := List.exists_cons_of_ne_nil (Path.segments_ne_nil path)
    rw [hsegments, List.foldlM_cons] at hrest
    obtain ⟨next, henter, -⟩ := Option.bind_eq_some_iff.1 hrest
    exact enter_of_idle (hasDirectory_of_enter henter) (.inl rfl)
  by_cases hbase : base = ""
  · rw [Path.join, if_pos (.inr hbase), walk, beginning, hpath] at h
    refine ⟨v.workingDirectory, ?_, h⟩
    rw [hbase]
    exact Option.bind_eq_some_iff.2 ⟨_, hempty h, rfl⟩
  · obtain ⟨front, -, hjoin, hend⟩ := Path.exists_segments_join hbase hpath
    have hbeginning : v.beginning (Path.join base path) = v.beginning base := by
      rw [beginning, beginning, Path.isAbsolute_join hbase hpath]
    rw [walk, hjoin, hbeginning, List.foldlM_append] at h
    obtain ⟨start, hfront, hrest⟩ := Option.bind_eq_some_iff.1 h
    refine ⟨start, ?_, hrest⟩
    rcases hend with hend | ⟨hend, -⟩
    · rw [walk, hend, List.foldlM_append]
      exact Option.bind_eq_some_iff.2 ⟨start, hfront,
        Option.bind_eq_some_iff.2 ⟨start, hempty hrest, rfl⟩⟩
    · rw [walk, hend]
      exact hfront

end Volume

/-! ### State files -/

namespace StateFile

open Parley.Path (segments moving Idle steps)

variable {directory key key' path path' : String}

/-- The names of the directories and the file that a key names below the state directory. -/
def names (key : String) : List String := moving (segments (key ++ extension))

/-- A key as far as its state file goes: its last segment, and before it those that are not idle. -/
def trail (key : String) : List String :=
  moving (segments key).dropLast ++ (segments key).getLast?.toList

theorem trail_eq {front : List String} {last : String} (h : segments key = front ++ [last]) :
    trail key = moving front ++ [last] := by
  rw [trail, h, List.dropLast_concat, List.getLast?_concat]
  rfl

theorem not_idle_extension (last : String) :
    ¬ Idle (last ++ extension) ∧ last ++ extension ≠ ".." := by
  have hlength (text : String) (h : last ++ extension = text) : 5 ≤ text.length := by
    have hext : extension.length = 5 := by decide
    rw [← h, String.length_append, hext]
    omega
  have hidle : ¬ Idle (last ++ extension) := by
    rintro (h | h)
    · exact absurd (hlength _ h) (by decide)
    · exact absurd (hlength _ h) (by decide)
  exact ⟨hidle, fun h => absurd (hlength _ h) (by decide)⟩

theorem names_eq {front : List String} {last : String} (h : segments key = front ++ [last]) :
    names key = moving front ++ [last ++ extension] := by
  have happend : moving (front ++ [last ++ extension]) =
      moving front ++ moving [last ++ extension] := List.filter_append ..
  rw [names, Path.segments_append h (by decide), happend,
    Path.moving_cons_of_not_idle (not_idle_extension last).1]
  rfl

theorem names_ne_nil (key : String) : names key ≠ [] := by
  obtain ⟨front, last, h⟩ := Path.exists_segments key
  rw [names_eq h]
  exact List.append_ne_nil_of_right_ne_nil _ (List.cons_ne_nil _ _)

/-- Two keys name the same file just when they have the same trail. -/
theorem names_eq_iff : names key = names key' ↔ trail key = trail key' := by
  obtain ⟨front, last, h⟩ := Path.exists_segments key
  obtain ⟨front', last', h'⟩ := Path.exists_segments key'
  rw [names_eq h, names_eq h', trail_eq h, trail_eq h']
  constructor
  · intro heq
    obtain ⟨hfront, hlast⟩ := List.append_inj' heq rfl
    rw [hfront, String.append_left_inj extension |>.1 (List.cons.inj hlast).1]
  · intro heq
    obtain ⟨hfront, hlast⟩ := List.append_inj' heq rfl
    rw [hfront, (List.cons.inj hlast).1]

/-- A key that is its own trail: none of its segments is idle, except perhaps the last one. -/
def Tidy (key : String) : Prop := ∀ segment ∈ (segments key).dropLast, ¬ Idle segment

instance : DecidablePred Tidy := fun key =>
  inferInstanceAs (Decidable (∀ segment ∈ (segments key).dropLast, ¬ Idle segment))

theorem Tidy.trail_eq (h : Tidy key) : trail key = segments key := by
  obtain ⟨front, last, hkey⟩ := Path.exists_segments key
  rw [Tidy, hkey, List.dropLast_concat] at h
  rw [StateFile.trail_eq hkey, hkey, moving, List.filter_eq_self.2 fun segment hsegment => by
    simpa using h segment hsegment]

/-- **Tidy keys are told apart** by the names of their state files. -/
theorem Tidy.trail_eq_iff (h : Tidy key) (h' : Tidy key') :
    trail key = trail key' ↔ key = key' := by
  rw [h.trail_eq, h'.trail_eq]
  exact Path.segments_injective.eq_iff

/-! ### Paths -/

theorem descends_extension (h : ∀ step ∈ steps key, Path.Descends step) :
    ∀ step ∈ steps (key ++ extension), Path.Descends step := by
  obtain ⟨hnil, hparent⟩ := Path.descends_iff.1 h
  obtain ⟨front, last, hkey⟩ := Path.exists_segments key
  rw [hkey] at hnil hparent
  rw [Path.descends_iff, Path.segments_append hkey (by decide)]
  constructor
  -- the ending is on the last segment, and a path begins with the first one
  · by_cases hfront : front = []
    · obtain ⟨hidle, -⟩ := not_idle_extension last
      simp only [Idle, not_or] at hidle
      rw [hfront, List.nil_append, Path.origin_cons, if_neg hidle.1, if_neg hidle.2]
    · rw [← hnil]
      exact Path.origin_append hfront (List.cons_ne_nil _ _) (List.cons_ne_nil _ _)
  · simp only [List.mem_append, List.mem_singleton, not_or] at hparent ⊢
    exact ⟨hparent.1, Ne.symm (not_idle_extension last).2⟩

/-- A path that is not refused is joined from the state directory and a path that only leads
down. -/
theorem eq_join_of_path (h : StateFile.path directory key = .ok path) :
    Path.join directory (key ++ extension) = path ∧
      Path.origin (segments (key ++ extension)) = [] ∧ ".." ∉ segments (key ++ extension) := by
  unfold StateFile.path at h
  split at h
  · next haccepted =>
    exact ⟨Except.ok.inj h, Path.descends_iff.1 (descends_extension haccepted.2)⟩
  · cases h

theorem steps_path (h : StateFile.path directory key = .ok path) :
    steps path = steps directory ++ (names key).map Step.name := by
  obtain ⟨rfl, hnil, hparent⟩ := eq_join_of_path h
  rw [Path.steps_join hnil, Path.filterMap_stepOf? hparent, names]

end StateFile

/-! ### Places -/

namespace Volume

variable {v : Volume} {directory key key' path path' : String} {place : List String}

/-- A place is found below a directory, by names that lead down from it. -/
def Below (v : Volume) (directory : String) (names place : List String) : Prop :=
  ∃ base, v.walk directory = some base ∧ place = base ++ names

theorem Below.eq_iff {names names' place' : List String} (h : v.Below directory names place)
    (h' : v.Below directory names' place') : place = place' ↔ names = names' := by
  obtain ⟨base, hbase, rfl⟩ := h
  obtain ⟨base', hbase', rfl⟩ := h'
  obtain rfl := Option.some.inj (hbase.symm.trans hbase')
  exact List.append_right_inj base

theorem below_of_locate (h : StateFile.path directory key = .ok path)
    (hlocate : v.locate path = some place) : v.Below directory (StateFile.names key) place := by
  obtain ⟨rfl, hnil, hparent⟩ := StateFile.eq_join_of_path h
  obtain ⟨base, hbase, hrest⟩ := walk_join (Path.isAbsolute_of_origin hnil) (walk_of_locate hlocate)
  exact ⟨base, hbase, eq_append_of_foldlM_enter hrest hparent⟩

theorem Grows.locate {v' : Volume} (h : v.Grows v') (hlocate : v.locate path = some place) :
    v'.locate path = some place := by
  unfold Volume.locate at hlocate ⊢
  split at hlocate
  · next husable =>
    rw [if_pos husable, beginning, h.workingDirectory]
    exact h.foldlM_enter hlocate
  · cases hlocate

end Volume

/-! ### Results -/

section

variable {directory key key' path path' : String}

/-- **A state file stays inside the state directory**, whatever the key is made of.  Its path is the
state directory and then names only, at least one; so wherever the path leads is below where the
state directory leads, and writing to it, even if this fails, changes no file elsewhere. -/
theorem StateFile.stays_inside (h : StateFile.path directory key = .ok path) :
    ∃ names, names ≠ [] ∧ Path.steps path = Path.steps directory ++ names.map Step.name ∧
      (∀ (v : Volume) (place : List String), v.locate path = some place →
        v.Below directory names place) ∧
      ∀ (v : Volume) (content : ByteArray) (place : List String),
        (v.write path content).2.file? place ≠ v.file? place →
          (v.write path content).2.Below directory names place := by
  refine ⟨names key, names_ne_nil key, steps_path h, fun v place => Volume.below_of_locate h,
    fun v content place hchanged => Volume.below_of_locate h ?_⟩
  by_contra hlocate
  exact hchanged ((v.keeps_write path content).2 place hlocate)

/-- A file system whose working directory is beside the one for states. -/
def Volume.quay : Volume where
  root := .directory [("home", .directory []), ("s", .directory [])]
  workingDirectory := ["home"]

theorem StateFile.stays_inside_slashes : ∃ names, names ≠ [] ∧
    Path.steps "../s/web/conversations//./1-ann/dialogState.json" =
      [.parent, .name "s"] ++ names.map Step.name ∧
    (Volume.quay.write "../s/web/conversations//./1-ann/dialogState.json" ⟨#[0]⟩).2.Below "../s/"
      names ["s", "web", "conversations", "1-ann", "dialogState.json"] := by
  have h : StateFile.path "../s/" "web/conversations//./1-ann/dialogState" =
      .ok "../s/web/conversations//./1-ann/dialogState.json" := by decide +kernel
  obtain ⟨names, hne, hsteps, -, hchanged⟩ := stays_inside h
  exact ⟨names, hne, hsteps, hchanged _ _ _ (by decide +kernel)⟩

/-- **Two keys have one state file just when they have one trail.**  If they do not, their paths
differ, also in where they lead, and a file that is found by one of them stays as it is when the
file of the other one is written.  Tidy keys differ as their trails do. -/
theorem StateFile.same_file_iff (h : StateFile.path directory key = .ok path)
    (h' : StateFile.path directory key' = .ok path') :
    (Path.steps path = Path.steps path' ↔ trail key = trail key') ∧
      (∀ (v : Volume) (place place' : List String), v.locate path = some place →
        v.locate path' = some place' → (place = place' ↔ trail key = trail key')) ∧
      (trail key ≠ trail key' → ∀ (v : Volume) (content kept : ByteArray),
        v.find? path' = some (.file kept) →
          (v.write path content).2.find? path' = some (.file kept)) ∧
      (Tidy key → Tidy key' → (trail key = trail key' ↔ key = key')) := by
  refine ⟨?_, fun v place place' hplace hplace' => ?_, fun hne v content kept hkept => ?_,
    Tidy.trail_eq_iff⟩
  · rw [steps_path h, steps_path h', List.append_right_inj, ← names_eq_iff]
    exact (List.map_injective_iff.2 fun _ _ => Step.name.inj).eq_iff
  · rw [← names_eq_iff]
    exact (Volume.below_of_locate h hplace).eq_iff (Volume.below_of_locate h' hplace')
  · -- no directory is lost, so the other path leads where it has led before
    obtain ⟨hgrows, hfiles⟩ := v.keeps_write path content
    obtain ⟨place, hplace, hfile⟩ := Volume.find?_eq_file_iff.1 hkept
    have hplace' := hgrows.locate hplace
    refine Volume.find?_eq_file_iff.2 ⟨place, hplace', (hfiles place fun hlocate => ?_).trans hfile⟩
    exact hne (names_eq_iff.1 (((Volume.below_of_locate h hlocate).eq_iff
      (Volume.below_of_locate h' hplace')).1 rfl))

end

theorem StateFile.same_file_iff_two :
    Path.steps "s/web/conversations/1-ann/dialogState.json" ≠
      Path.steps "s/web/conversations/2-ann/dialogState.json" ∧
    ∀ (v : Volume) (content kept : ByteArray),
      v.find? "s/web/conversations/2-ann/dialogState.json" = some (.file kept) →
        (v.write "s/web/conversations/1-ann/dialogState.json" content).2.find?
          "s/web/conversations/2-ann/dialogState.json" = some (.file kept) := by
  have h : StateFile.path "s" "web/conversations/1-ann/dialogState" =
      .ok "s/web/conversations/1-ann/dialogState.json" := by decide +kernel
  have h' : StateFile.path "s" "web/conversations/2-ann/dialogState" =
      .ok "s/web/conversations/2-ann/dialogState.json" := by decide +kernel
  obtain ⟨hsteps, -, hkept, htidy⟩ := same_file_iff h h'
  have hne : trail "web/conversations/1-ann/dialogState" ≠
      trail "web/conversations/2-ann/dialogState" := fun heq =>
    absurd ((htidy (by decide +kernel) (by decide +kernel)).1 heq) (by decide)
  exact ⟨fun heq => hne (hsteps.1 heq), hkept hne⟩

/-- **A slash tells keys apart but not files**: two conversations that have different keys have one
state file, so what is stored of one of them is found by the other one. -/
theorem StateFile.slash_shares_file : ∃ (a b : Address) (key key' path path' : String),
    a.stateDirectory = b.stateDirectory ∧ a.storageKey = .ok key ∧ b.storageKey = .ok key' ∧
      key ≠ key' ∧ StateFile.path a.stateDirectory key = .ok path ∧
      StateFile.path b.stateDirectory key' = .ok path' ∧ Path.steps path = Path.steps path' ∧
      ∃ (v v' : Volume) (content : ByteArray), v.find? path' = none ∧
        v.write path content = (true, v') ∧ v'.find? path' = some (.file content) := by
  refine ⟨⟨"s", "web", "1", "ann"⟩, ⟨"s", "web", "/1", "ann"⟩,
    "web/conversations/1-ann/dialogState", "web/conversations//1-ann/dialogState",
    "s/web/conversations/1-ann/dialogState.json", "s/web/conversations//1-ann/dialogState.json",
    rfl, rfl, rfl, by decide, by decide +kernel, by decide +kernel, by decide +kernel,
    Volume.quay, _, ⟨#[0]⟩, rfl, rfl, rfl⟩

end Parley

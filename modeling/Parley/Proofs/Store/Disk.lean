import Mathlib.Data.List.Basic
import Parley.Disk.Tree

/-!
# Disks that keep what is written

A disk is *lawful* when looking at it changes nothing, and a file that was written is there and
holds what was written to it (`Disk.Lawful`).  Nothing is said of how long it stays there, of other
files, or of when writing succeeds.

File systems in memory are lawful (`Volume.lawful_disk`): the directories that a file is written
into are there or made on the way, and no directory is ever lost, so the path that led to the place
of the file leads to it afterwards.
-/

namespace Parley

variable {σ : Type}

/-- Looking changes nothing, and what was written is there. -/
structure Disk.Lawful (disk : Disk (StateM σ)) : Prop where
  workingDirectory : ∀ s, (disk.workingDirectory.run s).2 = s
  kind? : ∀ path s, ((disk.kind? path).run s).2 = s
  filesBelow : ∀ path s, ((disk.filesBelow path).run s).2 = s
  read : ∀ path s, ((disk.read path).run s).2 = s
  written : ∀ {path : String} {content : ByteArray} {s s' : σ},
    (disk.write path content).run s = (.ok (), s') →
      (disk.kind? path).run s' = (some .file, s') ∧ (disk.read path).run s' = (.ok content, s')

/-- The bytes of a text are those of this text only. -/
theorem fromUTF8?_toUTF8 (text : String) : String.fromUTF8? text.toUTF8 = some text := by
  unfold String.fromUTF8?
  rw [String.toUTF8_eq_toByteArray, dif_pos text.isValidUTF8]
  rfl

/-! ### Trees -/

namespace FileTree

/-- Names lead to a directory. -/
def HasDirectory (t : FileTree) (names : List String) : Prop :=
  ∃ entries, t.at? names = some (directory entries)

theorem at?_append (t : FileTree) (names more : List String) :
    t.at? (names ++ more) = (t.at? names).bind (at? · more) := by
  induction names generalizing t with
  | nil => rfl
  | cons name rest ih =>
    rw [List.cons_append, at?, at?, Option.bind_assoc]
    exact Option.bind_congr fun child _ => ih child

theorem lookup_setEntry (name other : String) (new : FileTree)
    (entries : List (String × FileTree)) :
    (setEntry name new entries).lookup other =
      if other = name then some new else entries.lookup other := by
  induction entries with
  | nil =>
    rw [setEntry, List.lookup_cons]
    by_cases h : other = name
    · simp [h]
    · simp [h, beq_eq_false_iff_ne.2 h]
  | cons entry rest ih =>
    obtain ⟨k, t⟩ := entry
    rw [setEntry]
    by_cases hk : k = name
    · subst hk
      by_cases h : other = k
      · simp [h]
      · simp [List.lookup_cons, h, beq_eq_false_iff_ne.2 h]
    · rw [if_neg hk, List.lookup_cons, List.lookup_cons, ih]
      by_cases h : other = k
      · have hne : other ≠ name := h ▸ hk
        simp [h, hk]
      · simp [beq_eq_false_iff_ne.2 h]

theorem at?_put {t : FileTree} {place : List String} (h : t.HasDirectory place) (name : String)
    (new : FileTree) : (t.put (place ++ [name]) new).at? (place ++ [name]) = some new := by
  obtain ⟨entries, h⟩ := h
  induction place generalizing t entries with
  | nil =>
    obtain rfl := Option.some.inj h
    simp [put, at?, child?, lookup_setEntry]
  | cons step rest ih =>
    obtain ⟨child, hchild, hrest⟩ := Option.bind_eq_some_iff.1 h
    cases t with
    | file content => cases hchild
    | directory siblings =>
      have hlookup : siblings.lookup step = some child := hchild
      simp only [List.cons_append, put, at?, child?, lookup_setEntry, if_true, Option.bind_some,
        hlookup, Option.getD_some]
      exact ih entries hrest

theorem HasDirectory.put {t : FileTree} {names : List String} (h : t.HasDirectory names)
    {place : List String} (hplace : ¬ t.HasDirectory place) (new : FileTree) :
    (t.put place new).HasDirectory names := by
  induction place generalizing t names with
  | nil =>
    cases t with
    | file content =>
      obtain ⟨entries, h⟩ := h
      cases names with
      | nil => cases h
      | cons step rest => cases h
    | directory entries => exact absurd ⟨entries, rfl⟩ hplace
  | cons step rest ih =>
    cases t with
    | file content => exact h
    | directory siblings =>
      cases names with
      | nil => exact ⟨_, rfl⟩
      | cons name names =>
        obtain ⟨entries, h⟩ := h
        obtain ⟨child, hchild, hnames⟩ := Option.bind_eq_some_iff.1 h
        by_cases hname : name = step
        · subst hname
          have hlookup : siblings.lookup name = some child := hchild
          have hchildplace : ¬ child.HasDirectory rest := fun ⟨found, hfound⟩ =>
            hplace ⟨found, by rw [at?, child?, hlookup, Option.bind_some, hfound]⟩
          obtain ⟨found, hfound⟩ := ih ⟨entries, hnames⟩ hchildplace
          refine ⟨found, ?_⟩
          simp only [FileTree.put, at?, child?, lookup_setEntry, if_true, Option.bind_some,
            hlookup, Option.getD_some]
          exact hfound
        · refine ⟨entries, ?_⟩
          simp only [FileTree.put, at?, child?, lookup_setEntry, if_neg hname]
          exact h

end FileTree

/-! ### Volumes -/

namespace Volume

/-- All directories of a volume are those of another one too, and paths begin alike. -/
structure Grows (v v' : Volume) : Prop where
  workingDirectory : v'.workingDirectory = v.workingDirectory
  directories : ∀ place, v.root.HasDirectory place → v'.root.HasDirectory place

theorem Grows.refl (v : Volume) : v.Grows v := ⟨rfl, fun _ h => h⟩

theorem Grows.trans {v v' v'' : Volume} (h : v.Grows v') (h' : v'.Grows v'') : v.Grows v'' :=
  ⟨h'.workingDirectory.trans h.workingDirectory,
    fun place hplace => h'.directories place (h.directories place hplace)⟩

theorem grows_put {v : Volume} {place : List String} (h : ¬ v.root.HasDirectory place)
    (new : FileTree) : v.Grows (v.put place new) := ⟨rfl, fun _ hother => hother.put h new⟩

theorem hasDirectory_of_enter {v : Volume} {place next : List String} {segment : String}
    (h : v.enter place segment = some next) : v.root.HasDirectory place := by
  unfold enter at h
  split at h
  · next entries hplace => exact ⟨entries, hplace⟩
  · cases h

theorem Grows.enter {v v' : Volume} (h : v.Grows v') {place next : List String} {segment : String}
    (henter : v.enter place segment = some next) : v'.enter place segment = some next := by
  obtain ⟨entries, hplace⟩ := hasDirectory_of_enter henter
  obtain ⟨entries', hplace'⟩ := h.directories place ⟨entries, hplace⟩
  rw [Volume.enter, hplace] at henter
  rw [Volume.enter, hplace']
  exact henter

theorem Grows.foldlM_enter {v v' : Volume} (h : v.Grows v') {segments : List String}
    {place last : List String} (hfold : segments.foldlM v.enter place = some last) :
    segments.foldlM v'.enter place = some last := by
  induction segments generalizing place with
  | nil => exact hfold
  | cons segment rest ih =>
    rw [List.foldlM_cons] at hfold ⊢
    obtain ⟨next, hnext, hrest⟩ := Option.bind_eq_some_iff.1 hfold
    exact Option.bind_eq_some_iff.2 ⟨next, h.enter hnext, ih hrest⟩

/-- When directories have been made, the segments lead through them. -/
theorem foldlM_enter_of_makeDirectories {v v' : Volume} {segments : List String}
    {place last : List String} (h : v.makeDirectories place segments = (some last, v')) :
    v.Grows v' ∧ segments.foldlM v'.enter place = some last := by
  induction segments generalizing v place with
  | nil =>
    obtain ⟨hlast, rfl⟩ := Prod.mk.inj h
    exact ⟨.refl v, hlast⟩
  | cons segment rest ih =>
    rw [makeDirectories] at h
    cases henter : v.enter place segment with
    | none =>
      rw [henter] at h
      cases h
    | some next =>
      rw [henter] at h
      dsimp only at h
      have hfrom {w : Volume} (hw : v.Grows w)
          (hmake : w.makeDirectories next rest = (some last, v')) :
          v.Grows v' ∧ (segment :: rest).foldlM v'.enter place = some last := by
        obtain ⟨hgrows, hfold⟩ := ih hmake
        refine ⟨hw.trans hgrows, ?_⟩
        rw [List.foldlM_cons]
        exact Option.bind_eq_some_iff.2 ⟨next, (hw.trans hgrows).enter henter, hfold⟩
      split at h
      · exact hfrom (.refl v) h
      · next hnone =>
        split at h
        · refine hfrom (grows_put ?_ _) h
          rintro ⟨entries, hentries⟩
          rw [hnone] at hentries
          cases hentries
        · cases h

/-- What a volume goes through when a file is written. -/
structure Writes (v : Volume) (path : String) (content : ByteArray) (v' : Volume) : Prop where
  usable : isUsable path
  steps : ∃ place made segment name,
    v.makeDirectories (v.beginning path) (Path.segments path).dropLast = (some place, made) ∧
      (Path.segments path).getLast? = some segment ∧ Path.stepOf? segment = some (.name name) ∧
      made.root.HasDirectory place ∧ ¬ made.root.HasDirectory (place ++ [name]) ∧
      v' = made.put (place ++ [name]) (.file content)

theorem makeDirectories_of_makeParent {v made : Volume} {path : String} {place : List String}
    (h : v.makeParent path = (some place, made)) :
    v.makeDirectories (v.beginning path) (Path.segments path).dropLast = (some place, made) := by
  unfold makeParent at h
  dsimp only at h
  split at h
  · exact h
  · cases h

theorem writes_of_write {v v' : Volume} {path : String} {content : ByteArray}
    (h : v.write path content = (true, v')) : v.Writes path content v' := by
  unfold write at h
  split at h
  · next place made segment hparent hsegment =>
    split at h
    · next entries name hplace hstep =>
      have hentry : made.root.at? (place ++ [name]) = entries.lookup name := by
        rw [FileTree.at?_append, hplace, Option.bind_some, FileTree.at?, FileTree.child?]
        cases entries.lookup name <;> rfl
      split at h
      · cases h
      · next hnone =>
        split at h
        · next husable =>
          refine ⟨husable.1, place, made, segment, name, makeDirectories_of_makeParent hparent,
            hsegment, hstep, ⟨entries, hplace⟩, ?_, (Prod.mk.inj h).2.symm⟩
          rintro ⟨found, hfound⟩
          exact hnone found (hentry.symm.trans hfound)
        · cases h
    · cases h
  · cases h

/-- A path leads to the place where a file has been written to it. -/
theorem Writes.exists_locate {v v' : Volume} {path : String} {content : ByteArray}
    (h : v.Writes path content v') : ∃ place made name,
      v.Grows made ∧ made.root.HasDirectory place ∧ ¬ made.root.HasDirectory (place ++ [name]) ∧
        (∃ base segments, v.makeDirectories base segments = (some place, made)) ∧
          v' = made.put (place ++ [name]) (.file content) ∧
            v'.locate path = some (place ++ [name]) := by
  obtain ⟨place, made, segment, name, hmake, hsegment, hstep, hplace, hnone, rfl⟩ := h.steps
  obtain ⟨hgrows, hfold⟩ := foldlM_enter_of_makeDirectories hmake
  have hput := grows_put hnone (.file content)
  have hbeginning : (made.put (place ++ [name]) (.file content)).beginning path =
      v.beginning path := by
    rw [beginning, beginning, hput.workingDirectory, hgrows.workingDirectory]
  have hlast : made.enter place segment = some (place ++ [name]) := by
    obtain ⟨entries, hentries⟩ := hplace
    rw [enter, hentries, hstep]
  have hsegments : Path.segments path = (Path.segments path).dropLast ++ [segment] :=
    (List.dropLast_append_getLast? segment hsegment).symm
  refine ⟨place, made, name, hgrows, hplace, hnone, ⟨_, _, hmake⟩, rfl, ?_⟩
  rw [locate, if_pos h.usable, hbeginning, hsegments, List.foldlM_append]
  refine Option.bind_eq_some_iff.2 ⟨place, hput.foldlM_enter hfold, ?_⟩
  rw [List.foldlM_cons]
  exact Option.bind_eq_some_iff.2 ⟨_, hput.enter hlast, rfl⟩

/-- **What was written is found** at the path that it was written to. -/
theorem Writes.find? {v v' : Volume} {path : String} {content : ByteArray}
    (h : v.Writes path content v') : v'.find? path = some (.file content) := by
  obtain ⟨place, made, name, -, hplace, -, -, rfl, hlocate⟩ := h.exists_locate
  rw [Volume.find?, hlocate, Option.bind_some]
  exact FileTree.at?_put hplace name _

theorem run_kind? (path : String) (v : Volume) :
    (disk.kind? path).run v = ((v.find? path).map FileTree.kind, v) := rfl

theorem run_read (path : String) (v : Volume) :
    (disk.read path).run v =
      (match v.find? path with
        | some (.file content) => .ok content
        | some (.directory _) => .error "is a directory"
        | none => .error "no such file or directory", v) := rfl

theorem run_read_of_find? {path : String} {v : Volume} {content : ByteArray}
    (h : v.find? path = some (.file content)) : (disk.read path).run v = (.ok content, v) := by
  rw [run_read, h]

theorem run_write (path : String) (content : ByteArray) (v : Volume) :
    (disk.write path content).run v =
      match v.write path content with
      | (written, v') => (if written then .ok () else .error "cannot write the file", v') := rfl

theorem write_of_run_write {v v' : Volume} {path : String} {content : ByteArray}
    (h : (disk.write path content).run v = (.ok (), v')) : v.write path content = (true, v') := by
  rw [run_write] at h
  generalize v.write path content = written at h
  obtain ⟨_ | _, w⟩ := written
  · cases h
  · cases h
    rfl

/-- **File systems in memory are lawful.** -/
theorem lawful_disk : disk.Lawful where
  workingDirectory _ := rfl
  kind? _ _ := rfl
  filesBelow _ _ := rfl
  read _ _ := rfl
  written {path content v v'} h := by
    have hfound := (writes_of_write (write_of_run_write h)).find?
    rw [run_kind?, hfound]
    exact ⟨rfl, run_read_of_find? hfound⟩

end Volume

end Parley

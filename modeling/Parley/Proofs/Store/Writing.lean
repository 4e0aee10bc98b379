import Parley.Proofs.Store.Disk

/-!
# What a write changes

A disk holds files, each at a place of its own, and a path leads to a place or nowhere.  A *filing*
of a disk tells its files and places (`Disk.Filing`): what is read at a path is the file at the
place that it leads to, and a write that succeeds changes the file at one place and no other file.

File systems in memory have a filing, in which places are names that lead down from the root
(`Volume.filing`).  Writing may make directories on the way to a file, also when it fails in the
end, but no directory takes the place of a file, so all other files stay as they were
(`Volume.keeps_write`).
-/

namespace Parley

variable {σ : Type}

/-- The files of a disk, and where paths lead. -/
structure Disk.Filing (disk : Disk (StateM σ)) (ι : Type) where
  /-- The file at a place, if there is one. -/
  file? : σ → ι → Option ByteArray
  /-- The place that a path leads to. -/
  place? : σ → String → Option ι
  read_iff : ∀ {path : String} {s : σ} {content : ByteArray},
    ((disk.read path).run s).1 = .ok content ↔
      ∃ i, place? s path = some i ∧ file? s i = some content
  written : ∀ {path : String} {content : ByteArray} {s s' : σ},
    (disk.write path content).run s = (.ok (), s') →
      ∃ i, place? s' path = some i ∧ file? s' i = some content ∧ ∀ j ≠ i, file? s' j = file? s j

/-! ### Trees -/

namespace FileTree

/-- The content of a file. -/
def content? : FileTree → Option ByteArray
  | file content => some content
  | directory _ => none

/-- The file that names lead to. -/
def file? (t : FileTree) (names : List String) : Option ByteArray := (t.at? names).bind content?

theorem file?_eq_some_iff {t : FileTree} {names : List String} {content : ByteArray} :
    t.file? names = some content ↔ t.at? names = some (file content) := by
  rw [file?, Option.bind_eq_some_iff]
  constructor
  · rintro ⟨found, hfound, hcontent⟩
    cases found with
    | file content' =>
      obtain rfl := Option.some.inj hcontent
      exact hfound
    | directory entries => cases hcontent
  · exact fun h => ⟨_, h, rfl⟩

theorem file?_cons_of_not_hasDirectory {t : FileTree} (h : ¬ t.HasDirectory []) (name : String)
    (rest : List String) : t.file? (name :: rest) = none := by
  cases t with
  | file content => rfl
  | directory entries => exact absurd ⟨entries, rfl⟩ h

/-- A file or an empty directory in a place where there is no directory changes no file but the one
in this place. -/
theorem file?_put_of_ne {t : FileTree} {place : List String} (h : t.HasDirectory place)
    {name : String} (hold : ¬ t.HasDirectory (place ++ [name])) {new : FileTree}
    (hnew : ∀ step rest, new.file? (step :: rest) = none) {other : List String}
    (hother : other ≠ place ++ [name]) :
    (t.put (place ++ [name]) new).file? other = t.file? other := by
  obtain ⟨entries, h⟩ := h
  induction place generalizing t entries other with
  | nil =>
    obtain rfl := Option.some.inj h
    cases other with
    | nil => rfl
    | cons step rest =>
      simp only [List.nil_append, put, file?, at?, child?, lookup_setEntry]
      by_cases hstep : step = name
      · subst hstep
        rw [if_pos rfl, Option.bind_some]
        cases rest with
        | nil => exact absurd rfl hother
        | cons next more =>
          rw [← file?, hnew]
          cases hlookup : entries.lookup step with
          | none => rfl
          | some child =>
            refine (file?_cons_of_not_hasDirectory (t := child) ?_ next more).symm
            rintro ⟨found, hfound⟩
            exact hold ⟨found, by rw [List.nil_append, at?, child?, hlookup]; exact hfound⟩
      · rw [if_neg hstep]
  | cons step rest ih =>
    obtain ⟨child, hchild, hrest⟩ := Option.bind_eq_some_iff.1 h
    cases t with
    | file content => cases hchild
    | directory siblings =>
      have hlookup : siblings.lookup step = some child := hchild
      cases other with
      | nil => rfl
      | cons step' other =>
        simp only [List.cons_append, put, file?, at?, child?, lookup_setEntry, hlookup,
          Option.getD_some]
        by_cases hstep : step' = step
        · subst hstep
          rw [if_pos rfl, hlookup, Option.bind_some, Option.bind_some]
          refine ih ?_ (fun hother' => hother (congrArg (List.cons step') hother')) entries hrest
          rintro ⟨found, hfound⟩
          exact hold ⟨found, by
            rw [List.cons_append, at?, child?, hlookup, Option.bind_some, hfound]⟩
        · rw [if_neg hstep]

theorem file?_file (content : ByteArray) (step : String) (rest : List String) :
    (file content).file? (step :: rest) = none := rfl

theorem file?_directory_nil (names : List String) : (directory []).file? names = none := by
  cases names <;> rfl

theorem HasDirectory.dropLast {t : FileTree} {place : List String} (h : t.HasDirectory place) :
    ∃ found, t.at? place.dropLast = some found := by
  obtain ⟨entries, h⟩ := h
  rcases List.eq_nil_or_concat place with rfl | ⟨names, name, rfl⟩
  · exact ⟨_, h⟩
  · rw [List.concat_eq_append, at?_append] at h
    obtain ⟨found, hfound, -⟩ := Option.bind_eq_some_iff.1 h
    exact ⟨found, by rw [List.concat_eq_append, List.dropLast_concat, hfound]⟩

end FileTree

/-! ### Volumes -/

namespace Volume

/-- The file at a place. -/
def file? (v : Volume) (place : List String) : Option ByteArray := v.root.file? place

theorem find?_eq_file_iff {v : Volume} {path : String} {content : ByteArray} :
    v.find? path = some (.file content) ↔
      ∃ place, v.locate path = some place ∧ v.file? place = some content := by
  rw [find?, Option.bind_eq_some_iff]
  exact exists_congr fun place => and_congr_right fun _ => FileTree.file?_eq_some_iff.symm

/-- A segment that leads to where there is nothing is a name. -/
theorem exists_name_of_enter {v : Volume} {place next : List String} {segment : String}
    (h : v.enter place segment = some next) (hnone : v.root.at? next = none) :
    ∃ name, next = place ++ [name] := by
  obtain ⟨entries, hplace⟩ := hasDirectory_of_enter h
  rw [enter, hplace] at h
  dsimp only at h
  split at h
  · next name _ => exact ⟨name, (Option.some.inj h).symm⟩
  · obtain rfl := Option.some.inj h
    obtain ⟨found, hfound⟩ := FileTree.HasDirectory.dropLast ⟨entries, hplace⟩
    rw [hfound] at hnone
    cases hnone
  · obtain rfl := Option.some.inj h
    rw [hplace] at hnone
    cases hnone

/-- Making directories changes no file and loses no directory, even if one cannot be made. -/
theorem keeps_makeDirectories (v : Volume) (place segments : List String) :
    v.Grows (v.makeDirectories place segments).2 ∧
      ∀ q, (v.makeDirectories place segments).2.file? q = v.file? q := by
  induction segments generalizing v place with
  | nil => exact ⟨.refl v, fun q => rfl⟩
  | cons segment rest ih =>
    rw [makeDirectories]
    cases henter : v.enter place segment with
    | none => exact ⟨.refl v, fun q => rfl⟩
    | some next =>
      dsimp only
      cases hnext : v.root.at? next with
      | some found => exact ih v next
      | none =>
        dsimp only
        split
        · -- a directory is made where there was nothing, so no file gives way to it
          obtain ⟨name, rfl⟩ := exists_name_of_enter henter hnext
          have hold : ¬ v.root.HasDirectory (place ++ [name]) := by
            rintro ⟨entries, hentries⟩
            rw [hnext] at hentries
            cases hentries
          have hplace := hasDirectory_of_enter henter
          obtain ⟨hgrows, hfiles⟩ := ih (v.put (place ++ [name]) (.directory [])) (place ++ [name])
          refine ⟨(grows_put hold _).trans hgrows, fun q => (hfiles q).trans ?_⟩
          by_cases hq : q = place ++ [name]
          · subst hq
            rw [file?, put, FileTree.file?, FileTree.at?_put hplace, file?, FileTree.file?, hnext]
            rfl
          · exact FileTree.file?_put_of_ne hplace hold
              (fun step rest => FileTree.file?_directory_nil _) hq
        · exact ⟨.refl v, fun q => rfl⟩

theorem keeps_makeParent (v : Volume) (path : String) :
    v.Grows (v.makeParent path).2 ∧ ∀ q, (v.makeParent path).2.file? q = v.file? q := by
  unfold makeParent
  dsimp only
  split
  · exact keeps_makeDirectories v _ _
  · exact ⟨.refl v, fun q => rfl⟩

/-- A write that fails has made directories at most. -/
theorem eq_makeParent_of_write {v v' : Volume} {path : String} {content : ByteArray}
    (h : v.write path content = (false, v')) : v' = (v.makeParent path).2 := by
  unfold write at h
  split at h
  · next place made segment hparent hsegment =>
    rw [hparent]
    split at h
    · split at h
      · exact (Prod.mk.inj h).2.symm
      · split at h
        · cases h
        · exact (Prod.mk.inj h).2.symm
    · exact (Prod.mk.inj h).2.symm
  · next o made segment hparent _ =>
    rw [hparent]
    exact (Prod.mk.inj h).2.symm

/-- **A write that succeeds changes one file**, the one that the path leads to afterwards. -/
theorem Writes.exists_place {v v' : Volume} {path : String} {content : ByteArray}
    (h : v.Writes path content v') : ∃ place, v'.locate path = some place ∧
      v'.file? place = some content ∧ (∀ q ≠ place, v'.file? q = v.file? q) ∧ v.Grows v' := by
  obtain ⟨place, made, name, hgrows, hplace, hnone, ⟨base, segments, hmake⟩, rfl, hlocate⟩ :=
    h.exists_locate
  refine ⟨place ++ [name], hlocate, FileTree.file?_eq_some_iff.2 (FileTree.at?_put hplace name _),
    fun q hq => ?_, hgrows.trans (grows_put hnone _)⟩
  have hmade : made.file? q = v.file? q := by
    have hkeeps := (v.keeps_makeDirectories base segments).2 q
    rw [hmake] at hkeeps
    exact hkeeps
  exact (FileTree.file?_put_of_ne hplace hnone (FileTree.file?_file content) hq).trans hmade

/-- **Writing changes no file but the one that the path leads to**, and loses no directory, also
when it fails. -/
theorem keeps_write (v : Volume) (path : String) (content : ByteArray) :
    v.Grows (v.write path content).2 ∧
      ∀ q, (v.write path content).2.locate path ≠ some q →
        (v.write path content).2.file? q = v.file? q := by
  rcases hwrite : v.write path content with ⟨_ | _, v'⟩
  · obtain rfl := eq_makeParent_of_write hwrite
    obtain ⟨hgrows, hfiles⟩ := v.keeps_makeParent path
    exact ⟨hgrows, fun q _ => hfiles q⟩
  · obtain ⟨place, hplace, -, hfiles, hgrows⟩ := (writes_of_write hwrite).exists_place
    exact ⟨hgrows, fun q hq => hfiles q fun h => hq (h ▸ hplace)⟩

/-- The files of file systems in memory. -/
def filing : disk.Filing (List String) where
  file? := file?
  place? := locate
  read_iff {path v content} := by
    have hread : ((disk.read path).run v).1 = .ok content ↔
        v.find? path = some (.file content) := by
      constructor
      · intro h
        rw [run_read] at h
        dsimp only at h
        split at h
        · next content' hfound =>
          obtain rfl := Except.ok.inj h
          exact hfound
        · cases h
        · cases h
      · exact fun h => congrArg Prod.fst (run_read_of_find? h)
    rw [hread, find?_eq_file_iff]
  written {path content v v'} h := by
    obtain ⟨place, hplace, hcontent, hfiles, -⟩ :=
      (writes_of_write (write_of_run_write h)).exists_place
    exact ⟨place, hplace, hcontent, hfiles⟩

end Volume

end Parley

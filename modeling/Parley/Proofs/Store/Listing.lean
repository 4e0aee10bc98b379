import Parley.Proofs.Store.Library

/-!
# Loading in any order of listing

A directory of scripts is loaded in the order of the relative paths of its files, not in the order
in which the file system lists them: what is read is put into a table first, and a table is the same
whatever it was filled with first (`Keyed.ofEntries_eq_of_perm`).

So the outcome is told of the files as a set (`load_forgets_listing`).  A file *offends* if its text
defines no dialog, if a file before it defines the same dialog, or if its own dialog cannot be built
(`Offends`).  Loading succeeds if there are files and none of them offends, which is to say that all
of them define dialogs and no two the same one (`Sound`).  Otherwise it fails with what the first
file that offends is guilty of (`FirstOffence`).
-/

namespace Parley

/-! ### Tables -/

namespace Keyed

variable {α : Type}

theorem insert_perm {m : Keyed α} {key : String} (h : ∀ e ∈ m, e.1 ≠ key) (value : α) :
    (m.insert key value).Perm ((key, value) :: m) := by
  induction m with
  | nil => exact .refl _
  | cons e rest ih =>
    obtain ⟨k, v⟩ := e
    have hk : k ≠ key := h (k, v) List.mem_cons_self
    have hrest := ih fun e he => h e (List.mem_cons_of_mem (k, v) he)
    unfold insert
    split_ifs
    · exact .refl _
    · exact (hrest.cons (k, v)).trans (.swap _ _ _)

theorem insertAll_perm {m : Keyed α} {entries : List (String × α)}
    (h : ((entries ++ m).map Prod.fst).Nodup) : (insertAll m entries).Perm (entries ++ m) := by
  induction entries generalizing m with
  | nil => exact .refl _
  | cons e rest ih =>
    obtain ⟨hkey, hnodup⟩ := List.nodup_cons.1 h
    have hnew : ∀ e' ∈ m, e'.1 ≠ e.1 := fun e' he' heq =>
      hkey (List.mem_map.2 ⟨e', List.mem_append_right _ he', heq⟩)
    have hinsert := insert_perm hnew e.2
    have hmiddle : (rest ++ m.insert e.1 e.2).Perm (e :: (rest ++ m)) :=
      (hinsert.append_left rest).trans List.perm_middle
    have hnodup' : ((rest ++ m.insert e.1 e.2).map Prod.fst).Nodup :=
      (hmiddle.map Prod.fst).nodup_iff.2 h
    exact (ih hnodup').trans hmiddle

theorem insertAll_sorted {m : Keyed α} (h : m.Sorted) (entries : List (String × α)) :
    (insertAll m entries).Sorted := by
  induction entries generalizing m with
  | nil => exact h
  | cons e rest ih => exact ih (insert_sorted h e.1 e.2)

theorem ofEntries_sorted (entries : List (String × α)) : (ofEntries entries).Sorted :=
  insertAll_sorted List.Pairwise.nil entries

theorem ofEntries_perm {entries : List (String × α)} (h : (entries.map Prod.fst).Nodup) :
    (ofEntries entries).Perm entries := by
  have hnil : entries ++ [] = entries := List.append_nil entries
  rw [← hnil] at h
  exact (insertAll_perm h).trans (.of_eq hnil)

theorem ofEntries_eq_of_perm {entries entries' : List (String × α)} (h : entries.Perm entries')
    (hkeys : (entries'.map Prod.fst).Nodup) : ofEntries entries = ofEntries entries' := by
  have hkeys' := (h.map Prod.fst).nodup_iff.2 hkeys
  refine List.Perm.eq_of_pairwise (fun a b _ _ hab hba => ?_) (ofEntries_sorted entries)
    (ofEntries_sorted entries')
    ((ofEntries_perm hkeys').trans (h.trans (ofEntries_perm hkeys).symm))
  exact absurd (String.lt_trans hab hba) (String.lt_irrefl a.1)

theorem Sorted.mem_front_iff {front back : Keyed α} {e other : String × α}
    (h : Sorted (front ++ e :: back)) :
    other ∈ front ↔ other ∈ front ++ e :: back ∧ other.1 < e.1 := by
  obtain ⟨-, hback, hfront⟩ := List.pairwise_append.1 h
  constructor
  · intro hother
    exact ⟨List.mem_append_left _ hother, hfront other hother e List.mem_cons_self⟩
  · rintro ⟨hother, hlt⟩
    rcases List.mem_append.1 hother with hmem | hmem
    · exact hmem
    · rcases List.mem_cons.1 hmem with rfl | hmem
      · exact absurd hlt (String.lt_irrefl _)
      · have hgt := (List.pairwise_cons.1 hback).1 other hmem
        exact absurd (String.lt_trans hlt hgt) (String.lt_irrefl _)

end Keyed

namespace Library

/-! ### Files -/

/-- The files are those of a directory: each is there once, and no name of it has a slash or a
backslash in it. -/
structure WellNamed (files : List (List String × String)) : Prop where
  distinct : (files.map Prod.fst).Nodup
  names : ∀ file ∈ files, ∀ name ∈ file.1, '/' ∉ name.toList ∧ '\\' ∉ name.toList

theorem map_intercalate (f : Char → Char) (separator : Char) (texts : List (List Char)) :
    ([separator].intercalate texts).map f = [f separator].intercalate (texts.map (·.map f)) := by
  induction texts with
  | nil => rfl
  | cons text rest ih =>
    cases rest with
    | nil => simp
    | cons next rest =>
      rw [List.map_cons] at ih
      simp only [List.intercalate_cons_cons, List.map_append, List.map_cons, List.map_nil, ih]

theorem toList_sourceName {names : List String} (h : ∀ name ∈ names, '\\' ∉ name.toList) :
    (sourceName names).toList = ['/'].intercalate (names.map String.toList) := by
  have hkept : ∀ text ∈ names.map String.toList,
      text.map (fun c => if c = '\\' then '/' else c) = text := by
    intro text htext
    obtain ⟨name, hname, rfl⟩ := List.mem_map.1 htext
    refine (List.map_congr_left fun c hc => ?_).trans (List.map_id _)
    exact if_neg fun (hbackslash : c = '\\') => h name hname (hbackslash ▸ hc)
  rw [sourceName, Path.relative, String.toList_ofList, String.toList_ofList, map_intercalate,
    (List.map_congr_left hkept).trans (List.map_id _)]
  rfl

theorem sourceName_inj {names names' : List String} (hne : names ≠ []) (hne' : names' ≠ [])
    (h : ∀ name ∈ names, '/' ∉ name.toList ∧ '\\' ∉ name.toList)
    (h' : ∀ name ∈ names', '/' ∉ name.toList ∧ '\\' ∉ name.toList)
    (heq : sourceName names = sourceName names') : names = names' := by
  have hsplit {names : List String} (hne : names ≠ [])
      (h : ∀ name ∈ names, '/' ∉ name.toList ∧ '\\' ∉ name.toList) :
      (sourceName names).toList.splitOn '/' = names.map String.toList := by
    rw [toList_sourceName fun name hname => (h name hname).2]
    refine List.splitOn_intercalate '/' (fun text htext => ?_) (by simpa using hne)
    obtain ⟨name, hname, rfl⟩ := List.mem_map.1 htext
    exact (h name hname).1
  have hnames := hsplit hne' h'
  rw [← heq, hsplit hne h] at hnames
  exact List.map_injective_iff.2 (fun _ _ => String.toList_inj.1) hnames

theorem ne_nil_of_isDialogFile {names : List String} (h : isDialogFile names = true) :
    names ≠ [] := by
  rintro rfl
  cases h

section

variable {σ : Type} {disk : Disk (StateM σ)} {s : σ} {path directory : String}
  {files : List (List String × String)}

theorem Lists.isDialogFile_of_mem (h : Lists disk s path directory files)
    {file : List String × String} (hfile : file ∈ files) : isDialogFile file.1 = true := by
  have hmem := List.mem_map_of_mem (f := Prod.fst) hfile
  rw [← h.listed] at hmem
  exact (List.mem_filter.1 hmem).2

theorem Lists.nodup_sources (h : Lists disk s path directory files) (hnamed : WellNamed files) :
    ((files.map sourceOf).map Prod.fst).Nodup := by
  have hnames : (files.map sourceOf).map Prod.fst = (files.map Prod.fst).map sourceName := by
    simp only [List.map_map]
    rfl
  rw [hnames]
  refine List.Nodup.map_on (fun names hn names' hn' heq => ?_) hnamed.distinct
  obtain ⟨file, hfile, rfl⟩ := List.mem_map.1 hn
  obtain ⟨file', hfile', rfl⟩ := List.mem_map.1 hn'
  exact sourceName_inj (ne_nil_of_isDialogFile (h.isDialogFile_of_mem hfile))
    (ne_nil_of_isDialogFile (h.isDialogFile_of_mem hfile')) (hnamed.names file hfile)
    (hnamed.names file' hfile') heq

end

/-! ### Offences -/

/-- The text of a file defines a dialog under this id. -/
def DefinesId (source : String × String) (id : String) : Prop :=
  ∃ definition, DialogDefinition.read source.2 = .ok definition ∧ definition.id = id

/-- The text of a file defines this dialog. -/
def Builds (source : String × String) (d : Dialog) : Prop :=
  ∃ definition, DialogDefinition.read source.2 = .ok definition ∧ definition.toDialog {} = .ok d

theorem id_of_toDialog {definition : DialogDefinition} {options : DialogOptions} {d : Dialog}
    (h : definition.toDialog options = .ok d) : d.id = definition.id := by
  obtain ⟨threads, -, rfl⟩ := DialogDefinition.exists_of_toDialog_eq_ok h
  rfl

/-- What a file is guilty of. -/
inductive Offends (sources : List (String × String)) (source : String × String) :
    DialogError → Prop
  /-- Its text defines nothing. -/
  | invalid {e : DialogError} (hread : DialogDefinition.read source.2 = .error e) :
      Offends sources source (.inFile source.1 e)
  /-- Its dialog is defined in a file before it. -/
  | duplicate {definition : DialogDefinition} {other : String × String}
      (hread : DialogDefinition.read source.2 = .ok definition) (hother : other ∈ sources)
      (hbefore : other.1 < source.1) (hid : DefinesId other definition.id) :
      Offends sources source (.command .sourceDuplicate
        (DialogError.quote definition.id ++ " in both " ++ other.1 ++ " and " ++ source.1))
  /-- Its dialog is new, but cannot be built. -/
  | broken {definition : DialogDefinition} {e : DialogError}
      (hread : DialogDefinition.read source.2 = .ok definition)
      (hnew : ∀ other ∈ sources, other.1 < source.1 → ¬ DefinesId other definition.id)
      (hbuild : definition.toDialog {} = .error e) : Offends sources source e

/-- What the first file is guilty of that offends. -/
def FirstOffence (sources : List (String × String)) (e : DialogError) : Prop :=
  ∃ source ∈ sources, Offends sources source e ∧
    ∀ other ∈ sources, other.1 < source.1 → ∀ e', ¬ Offends sources other e'

/-- Every file defines a dialog, and no two define the same one. -/
structure Sound (sources : List (String × String)) : Prop where
  builds : ∀ source ∈ sources, ∃ d, Builds source d
  distinct : ∀ source ∈ sources, ∀ other ∈ sources, ∀ id,
    DefinesId source id → DefinesId other id → source = other

/-- Files offend each other whatever the order in which they are told. -/
theorem Offends.of_perm {sources sources' : List (String × String)} {source : String × String}
    {e : DialogError} (h : Offends sources source e) (hperm : sources.Perm sources') :
    Offends sources' source e := by
  cases h with
  | invalid hread => exact .invalid hread
  | duplicate hread hother hbefore hid =>
    exact .duplicate hread (hperm.mem_iff.1 hother) hbefore hid
  | broken hread hnew hbuild =>
    exact .broken hread (fun other hother => hnew other (hperm.mem_iff.2 hother)) hbuild

theorem FirstOffence.of_perm {sources sources' : List (String × String)} {e : DialogError}
    (h : FirstOffence sources e) (hperm : sources.Perm sources') : FirstOffence sources' e := by
  obtain ⟨source, hsource, hoffends, hfirst⟩ := h
  refine ⟨source, hperm.mem_iff.1 hsource, hoffends.of_perm hperm, fun other hother hlt e' h => ?_⟩
  exact hfirst other (hperm.mem_iff.2 hother) hlt e' (h.of_perm hperm.symm)

section

variable {sources : List (String × String)} {source : String × String} {d d' : Dialog}
  {e e' : DialogError} {id : String}

theorem Builds.definesId (h : Builds source d) : DefinesId source d.id := by
  obtain ⟨definition, hread, hbuild⟩ := h
  exact ⟨definition, hread, (id_of_toDialog hbuild).symm⟩

theorem Builds.unique (h : Builds source d) (h' : Builds source d') : d = d' := by
  obtain ⟨definition, hread, hbuild⟩ := h
  obtain ⟨definition', hread', hbuild'⟩ := h'
  obtain rfl := Except.ok.inj (hread.symm.trans hread')
  exact Except.ok.inj (hbuild.symm.trans hbuild')

theorem DefinesId.unique {id' : String} (h : DefinesId source id) (h' : DefinesId source id') :
    id = id' := by
  obtain ⟨definition, hread, rfl⟩ := h
  obtain ⟨definition', hread', rfl⟩ := h'
  obtain rfl := Except.ok.inj (hread.symm.trans hread')
  rfl

/-- A file that defines a dialog which a file before it defines offends. -/
theorem DefinesId.offends {other : String × String} (h : DefinesId source id)
    (h' : DefinesId other id) (hother : other ∈ sources) (hlt : other.1 < source.1) :
    ∃ e, Offends sources source e := by
  obtain ⟨definition, hread, rfl⟩ := h
  exact ⟨_, .duplicate hread hother hlt h'⟩

/-- No file offends just when all of them are sound. -/
theorem forall_not_offends_iff (hkeys : (sources.map Prod.fst).Nodup) :
    (∀ source ∈ sources, ∀ e, ¬ Offends sources source e) ↔ Sound sources := by
  constructor
  · intro h
    refine ⟨fun source hsource => ?_, fun source hsource other hother id hid hid' => ?_⟩
    · cases hread : DialogDefinition.read source.2 with
      | error e => exact absurd (.invalid hread) (h source hsource _)
      | ok definition =>
        have hnew : ∀ other ∈ sources, other.1 < source.1 → ¬ DefinesId other definition.id :=
          fun other hother hlt hid => h source hsource _ (.duplicate hread hother hlt hid)
        cases hbuild : definition.toDialog {} with
        | error e => exact absurd (.broken hread hnew hbuild) (h source hsource _)
        | ok d => exact ⟨d, definition, hread, hbuild⟩
    · rcases Std.lt_trichotomy source.1 other.1 with hlt | heq | hlt
      · obtain ⟨e, he⟩ := hid'.offends hid hsource hlt
        exact absurd he (h other hother e)
      · exact List.inj_on_of_nodup_map hkeys hsource hother heq
      · obtain ⟨e, he⟩ := hid.offends hid' hother hlt
        exact absurd he (h source hsource e)
  · rintro ⟨hbuilds, hdistinct⟩ source hsource e hoffends
    obtain ⟨d, definition, hread, hbuild⟩ := hbuilds source hsource
    cases hoffends with
    | invalid hread' => rw [hread] at hread'; cases hread'
    | @duplicate definition' other hread' hother hlt hid =>
      have heq := hdistinct source hsource other hother _ ⟨definition', hread', rfl⟩ hid
      exact absurd (heq ▸ hlt) (String.lt_irrefl _)
    | broken hread' hnew hbuild' =>
      obtain rfl := Except.ok.inj (hread.symm.trans hread')
      rw [hbuild] at hbuild'
      cases hbuild'

/-- A file is guilty of one thing, if none of those before it offends. -/
theorem Offends.unique (h : Offends sources source e) (h' : Offends sources source e')
    (hfirst : ∀ other ∈ sources, other.1 < source.1 → ∀ e, ¬ Offends sources other e) : e = e' := by
  cases h with
  | invalid hread =>
    cases h' with
    | invalid hread' => rw [Except.error.inj (hread.symm.trans hread')]
    | duplicate hread' | broken hread' => rw [hread] at hread'; cases hread'
  | @duplicate definition other hread hother hlt hid =>
    cases h' with
    | invalid hread' => rw [hread] at hread'; cases hread'
    | @duplicate definition' other' hread' hother' hlt' hid' =>
      obtain rfl := Except.ok.inj (hread.symm.trans hread')
      rcases Std.lt_trichotomy other.1 other'.1 with hbefore | heq | hbefore
      · obtain ⟨e, he⟩ := hid'.offends hid hother hbefore
        exact absurd he (hfirst other' hother' hlt' e)
      · rw [heq]
      · obtain ⟨e, he⟩ := hid.offends hid' hother' hbefore
        exact absurd he (hfirst other hother hlt e)
    | broken hread' hnew hbuild =>
      obtain rfl := Except.ok.inj (hread.symm.trans hread')
      exact absurd hid (hnew other hother hlt)
  | broken hread hnew hbuild =>
    cases h' with
    | invalid hread' => rw [hread] at hread'; cases hread'
    | @duplicate definition' other hread' hother hlt hid =>
      obtain rfl := Except.ok.inj (hread.symm.trans hread')
      exact absurd hid (hnew other hother hlt)
    | broken hread' hnew' hbuild' =>
      obtain rfl := Except.ok.inj (hread.symm.trans hread')
      exact Except.error.inj (hbuild.symm.trans hbuild')

theorem FirstOffence.unique (hkeys : (sources.map Prod.fst).Nodup) (h : FirstOffence sources e)
    (h' : FirstOffence sources e') : e = e' := by
  obtain ⟨source, hsource, hoffends, hfirst⟩ := h
  obtain ⟨source', hsource', hoffends', hfirst'⟩ := h'
  rcases Std.lt_trichotomy source.1 source'.1 with hlt | heq | hlt
  · exact absurd hoffends (hfirst' source hsource hlt e)
  · obtain rfl := List.inj_on_of_nodup_map hkeys hsource hsource' heq
    exact hoffends.unique hoffends' hfirst
  · exact absurd hoffends' (hfirst source' hsource' hlt e')

end

/-! ### Going through the files -/

/-- What has been loaded are the dialogs of these files. -/
structure Registers (done : List (String × String)) (l : Loaded) : Prop where
  origins : ∀ id name, Keyed.get? l.origins id = some name ↔
    ∃ source ∈ done, source.1 = name ∧ DefinesId source id
  dialogs : ∀ id d, Keyed.get? l.dialogs id = some d ↔
    ∃ source ∈ done, Builds source d ∧ d.id = id

theorem registers_nil : Registers [] {} :=
  ⟨fun _ _ => by simp, fun _ _ => by simp⟩

section

variable {done : List (String × String)} {source : String × String} {l : Loaded}

/-- One more dialog is loaded, if none before it has its id. -/
theorem Registers.add (h : Registers done l) {definition : DialogDefinition} {d : Dialog}
    (hread : DialogDefinition.read source.2 = .ok definition)
    (hbuild : definition.toDialog {} = .ok d)
    (hnew : Keyed.get? l.origins definition.id = none) :
    Registers (done ++ [source]) {
      dialogs := l.dialogs.add d
      origins := Keyed.insert l.origins definition.id source.1 } := by
  have hid : d.id = definition.id := id_of_toDialog hbuild
  have hsource : Builds source d := ⟨definition, hread, hbuild⟩
  have hfresh : ∀ other ∈ done, ¬ DefinesId other definition.id := by
    intro other hother hdefines
    have hsome := (h.origins definition.id other.1).2 ⟨other, hother, rfl, hdefines⟩
    rw [hnew] at hsome
    cases hsome
  constructor
  · intro id name
    show Keyed.get? (Keyed.insert l.origins definition.id source.1) id = some name ↔ _
    simp only [List.mem_append, List.mem_singleton, or_and_right, exists_or, exists_eq_left]
    by_cases heq : id = definition.id
    · subst heq
      rw [Keyed.get?_insert_self, Option.some.injEq]
      constructor
      · exact fun hname => .inr ⟨hname, definition, hread, rfl⟩
      · rintro (⟨other, hother, -, hdefines⟩ | ⟨hname, -⟩)
        · exact absurd hdefines (hfresh other hother)
        · exact hname
    · rw [Keyed.get?_insert_of_ne _ _ heq, h.origins]
      refine ⟨.inl, ?_⟩
      rintro (hfound | ⟨-, hdefines⟩)
      · exact hfound
      · exact absurd (hdefines.unique ⟨definition, hread, rfl⟩) heq
  · intro id d'
    show Keyed.get? (Keyed.insert l.dialogs d.id d) id = some d' ↔ _
    simp only [List.mem_append, List.mem_singleton, or_and_right, exists_or, exists_eq_left]
    by_cases heq : id = d.id
    · subst heq
      rw [Keyed.get?_insert_self, Option.some.injEq]
      constructor
      · rintro rfl
        exact .inr ⟨hsource, rfl⟩
      · rintro (⟨other, hother, hbuilds, hsame⟩ | ⟨hbuilds, -⟩)
        · exact absurd (hid ▸ hsame ▸ hbuilds.definesId) (hfresh other hother)
        · exact hsource.unique hbuilds
    · rw [Keyed.get?_insert_of_ne _ _ heq, h.dialogs]
      refine ⟨.inl, ?_⟩
      rintro (hfound | ⟨hbuilds, hsame⟩)
      · exact hfound
      · exact absurd (hsource.unique hbuilds ▸ hsame).symm heq

variable {sources : List (String × String)} {e : DialogError}

/-- One more file: its dialog is loaded, or it offends, and the error tells how. -/
theorem Registers.step (h : Registers done l)
    (hdone : ∀ other, other ∈ done ↔ other ∈ sources ∧ other.1 < source.1) :
    (∃ l', l.add source = .ok l' ∧ Registers (done ++ [source]) l' ∧
        ∀ e, ¬ Offends sources source e) ∨
      ∃ e, l.add source = .error e ∧ Offends sources source e := by
  have hadd : l.add source =
      (DialogDefinition.read source.2).mapError (.inFile source.1) >>= fun definition =>
        l.addDefinition (source.1, definition) := rfl
  cases hread : DialogDefinition.read source.2 with
  | error e => exact .inr ⟨_, by rw [hadd, hread]; rfl, .invalid hread⟩
  | ok definition =>
    have hadd : l.add source = l.addDefinition (source.1, definition) := add_eq_of_read hread
    unfold Loaded.addDefinition at hadd
    dsimp only at hadd
    cases horigin : Keyed.get? l.origins definition.id with
    | some origin =>
      obtain ⟨other, hother, rfl, hid⟩ := (h.origins _ _).1 horigin
      obtain ⟨hmem, hlt⟩ := (hdone other).1 hother
      rw [horigin] at hadd
      exact .inr ⟨_, hadd, .duplicate hread hmem hlt hid⟩
    | none =>
      have hnew : ∀ other ∈ sources, other.1 < source.1 → ¬ DefinesId other definition.id := by
        intro other hother hlt hid
        have hsome := (h.origins _ _).2 ⟨other, (hdone other).2 ⟨hother, hlt⟩, rfl, hid⟩
        rw [horigin] at hsome
        cases hsome
      rw [horigin] at hadd
      cases hbuild : definition.toDialog {} with
      | error e =>
        rw [hbuild] at hadd
        exact .inr ⟨e, hadd, .broken hread hnew hbuild⟩
      | ok d =>
        rw [hbuild] at hadd
        refine .inl ⟨_, hadd, h.add hread hbuild horigin, fun e hoffends => ?_⟩
        cases hoffends with
        | invalid hread' => rw [hread] at hread'; cases hread'
        | @duplicate definition' other hread' hother hlt hid =>
          obtain rfl := Except.ok.inj (hread.symm.trans hread')
          exact hnew other hother hlt hid
        | broken hread' _ hbuild' =>
          obtain rfl := Except.ok.inj (hread.symm.trans hread')
          rw [hbuild] at hbuild'
          cases hbuild'

/-- Going on behind files of which none offends: all dialogs are loaded and no file offends, or the
error is the first offence. -/
theorem Registers.foldlM (h : Registers done l) (rest : List (String × String))
    (hsorted : Keyed.Sorted (done ++ rest))
    (hgood : ∀ source ∈ done, ∀ e, ¬ Offends (done ++ rest) source e) :
    (∃ l', rest.foldlM Loaded.add l = .ok l' ∧ Registers (done ++ rest) l' ∧
        ∀ source ∈ done ++ rest, ∀ e, ¬ Offends (done ++ rest) source e) ∨
      ∃ e, rest.foldlM Loaded.add l = .error e ∧ FirstOffence (done ++ rest) e := by
  induction rest generalizing done l with
  | nil =>
    rw [List.append_nil] at hgood ⊢
    exact .inl ⟨l, rfl, h, hgood⟩
  | cons source rest ih =>
    have hfront : ∀ other, other ∈ done ↔
        other ∈ done ++ source :: rest ∧ other.1 < source.1 := fun other => hsorted.mem_front_iff
    have happend : done ++ source :: rest = (done ++ [source]) ++ rest := by simp
    rw [List.foldlM_cons]
    rcases h.step hfront with ⟨l', hadd, hl', hnone⟩ | ⟨e, hadd, hoffends⟩
    · have hgood' : ∀ other ∈ done ++ [source], ∀ e,
          ¬ Offends (done ++ source :: rest) other e := by
        intro other hother
        rcases List.mem_append.1 hother with hother | hother
        · exact hgood other hother
        · rw [List.mem_singleton.1 hother]
          exact hnone
      rw [happend] at hsorted hgood' ⊢
      rw [hadd]
      exact ih hl' hsorted hgood'
    · rw [hadd]
      refine .inr ⟨e, rfl, source, List.mem_append_right _ List.mem_cons_self, hoffends, ?_⟩
      intro other hother hlt
      exact hgood other ((hfront other).2 ⟨hother, hlt⟩)

end

/-! ### Loading as a whole -/

section

variable {sources : List (String × String)}

/-- What comes of files in any order: all of their dialogs, or the first offence. -/
theorem ofSources_cases (hkeys : (sources.map Prod.fst).Nodup) :
    (∃ dialogs, ofSources (Keyed.ofEntries sources) = .ok dialogs ∧ Sound sources ∧
        ∀ id d, Keyed.get? dialogs id = some d ↔ ∃ source ∈ sources, Builds source d ∧ d.id = id) ∨
      ∃ e, ofSources (Keyed.ofEntries sources) = .error e ∧ FirstOffence sources e := by
  have hperm := Keyed.ofEntries_perm hkeys
  have hnone : ∀ source ∈ ([] : List (String × String)), ∀ e,
      ¬ Offends ([] ++ Keyed.ofEntries sources) source e :=
    fun source hsource => absurd hsource List.not_mem_nil
  unfold ofSources
  rcases registers_nil.foldlM (Keyed.ofEntries sources) (Keyed.ofEntries_sorted sources)
    hnone with ⟨l, hfold, hl, hgood⟩ | ⟨e, hfold, hfirst⟩
  · rw [hfold]
    rw [List.nil_append] at hl hgood
    refine .inl ⟨l.dialogs, rfl, (forall_not_offends_iff hkeys).1 fun source hsource e h => ?_,
      fun id d => ?_⟩
    · exact hgood source (hperm.mem_iff.2 hsource) e (h.of_perm hperm.symm)
    · rw [hl.dialogs]
      simp only [hperm.mem_iff]
  · rw [hfold]
    exact .inr ⟨e, rfl, hfirst.of_perm hperm⟩

theorem FirstOffence.not_sound {e : DialogError} (hkeys : (sources.map Prod.fst).Nodup)
    (h : FirstOffence sources e) : ¬ Sound sources := by
  obtain ⟨source, hsource, hoffends, -⟩ := h
  exact fun hsound => (forall_not_offends_iff hkeys).2 hsound source hsource e hoffends

/-- The ids that are registered are those that are defined. -/
theorem Sound.exists_find_iff (hsound : Sound sources) {dialogs : DialogSet}
    (h : ∀ id d, dialogs.find id = .ok d ↔ ∃ source ∈ sources, Builds source d ∧ d.id = id)
    (id : String) :
    (∃ d, dialogs.find id = .ok d) ↔ ∃ source ∈ sources, DefinesId source id := by
  simp only [h]
  constructor
  · rintro ⟨d, source, hsource, hbuilds, rfl⟩
    exact ⟨source, hsource, hbuilds.definesId⟩
  · rintro ⟨source, hsource, hid⟩
    obtain ⟨d, hbuilds⟩ := hsound.builds source hsource
    exact ⟨d, source, hsource, hbuilds, hbuilds.definesId.unique hid⟩

end

section

variable {σ : Type} {disk : Disk (StateM σ)} {s : σ} {path directory : String}
  {files : List (List String × String)}

/-- The files are loaded. -/
structure Succeeds (files : List (List String × String)) (directory : String)
    (outcome : Except DialogError Library) (dialogs : DialogSet) : Prop where
  outcome_eq : outcome = .ok ⟨directory, dialogs⟩
  ne_nil : files ≠ []
  sound : Sound (files.map sourceOf)
  find_iff : ∀ id d, dialogs.find id = .ok d ↔
    ∃ source ∈ files.map sourceOf, Builds source d ∧ d.id = id

/-- Loading succeeds with all dialogs, or finds no files, or fails with the first offence. -/
theorem load_cases (hdisk : disk.Lawful) (h : Lists disk s path directory files)
    (hnamed : WellNamed files) :
    (∃ dialogs, Succeeds files directory ((load disk path).run.run s).1 dialogs) ∨
      (((load disk path).run.run s).1 = .error (.command .sourceEmpty directory) ∧ files = []) ∨
        ∃ e, ((load disk path).run.run s).1 = .error e ∧ FirstOffence (files.map sourceOf) e := by
  rw [run_load hdisk h]
  by_cases hnil : files = []
  · exact .inr (.inl ⟨by rw [if_pos hnil], hnil⟩)
  · rw [if_neg hnil]
    rcases ofSources_cases (h.nodup_sources hnamed) with
      ⟨dialogs, hok, hsound, hget⟩ | ⟨e, herror, hfirst⟩
    · refine .inl ⟨dialogs, by rw [hok]; rfl, hnil, hsound, fun id d => ?_⟩
      rw [DialogSet.find_eq_ok_iff, hget]
    · exact .inr (.inr ⟨e, by rw [herror]; rfl, hfirst⟩)

/-- **What comes of loading a directory does not tell in which order its files are listed.**  It
succeeds just when there are files, each defines a dialog and no two the same one; then these are
the dialogs that are loaded.  If there are files and it fails, then with the first offence in the
order of the paths. -/
theorem load_forgets_listing (hdisk : disk.Lawful) (h : Lists disk s path directory files)
    (hnamed : WellNamed files) :
    (∀ {σ' : Type} (disk' : Disk (StateM σ')) (s' : σ') (path' : String)
        (files' : List (List String × String)),
      disk'.Lawful → Lists disk' s' path' directory files' → files'.Perm files →
        ((load disk' path').run.run s').1 = ((load disk path).run.run s).1) ∧
    ((∃ library, ((load disk path).run.run s).1 = .ok library) ↔
      files ≠ [] ∧ Sound (files.map sourceOf)) ∧
    (∀ library, ((load disk path).run.run s).1 = .ok library →
      library.directory = directory ∧
        (∀ id, (∃ d, library.dialogs.find id = .ok d) ↔
          ∃ source ∈ files.map sourceOf, DefinesId source id) ∧
          ∀ id d, library.dialogs.find id = .ok d ↔
            ∃ source ∈ files.map sourceOf, Builds source d ∧ d.id = id) ∧
    (files ≠ [] → ∀ e, ((load disk path).run.run s).1 = .error e ↔
      FirstOffence (files.map sourceOf) e) := by
  have hkeys := h.nodup_sources hnamed
  refine ⟨fun disk' s' path' files' hdisk' h' hperm => ?_, ?_⟩
  · have hnil : files' = [] ↔ files = [] := by
      rw [← List.length_eq_zero_iff, hperm.length_eq, List.length_eq_zero_iff]
    rw [run_load hdisk h, run_load hdisk' h',
      Keyed.ofEntries_eq_of_perm (hperm.map sourceOf) hkeys]
    simp only [hnil]
  · rcases load_cases hdisk h hnamed with ⟨dialogs, hloaded⟩ | ⟨hempty, hnil⟩ | ⟨e, herror, hfirst⟩
    · have hnone (e : DialogError) : ¬ FirstOffence (files.map sourceOf) e :=
        fun hfirst => hfirst.not_sound hkeys hloaded.sound
      rw [hloaded.outcome_eq]
      refine ⟨iff_of_true ⟨_, rfl⟩ ⟨hloaded.ne_nil, hloaded.sound⟩, ?_, fun _ e => ?_⟩
      · rintro library ⟨⟩
        exact ⟨rfl, hloaded.sound.exists_find_iff hloaded.find_iff, hloaded.find_iff⟩
      · exact iff_of_false (fun heq => nomatch heq) (hnone e)
    · rw [hempty]
      exact ⟨iff_of_false (fun ⟨_, hok⟩ => nomatch hok) fun hfiles => hfiles.1 hnil,
        fun _ hok => (nomatch hok), fun hne => absurd hnil hne⟩
    · rw [herror]
      refine ⟨iff_of_false (fun ⟨_, hok⟩ => nomatch hok) fun hfiles =>
        hfirst.not_sound hkeys hfiles.2, fun _ hok => (nomatch hok), fun _ e' => ?_⟩
      constructor
      · rintro ⟨⟩
        exact hfirst
      · intro hfirst'
        rw [hfirst.unique hkeys hfirst']

end

/-! ### A cupboard -/

namespace Cupboard

/-- A dialog without threads. -/
def tea : DialogDefinition where
  id := "tea"
  threads := []

/-- The script of this dialog. -/
def teaScript : Json := .object [("id", .string "tea"), ("threads", .object [])]

theorem read_teaScript : DialogDefinition.read teaScript.render = .ok tea :=
  DialogDefinition.read_render (v := teaScript) ⟨trivial, trivial, trivial⟩ rfl

/-- A cupboard with two shelves that hold the same text, and something else beside them. -/
def files (text wine : String) : List (List String × String) :=
  [(["top", "tea.dialog.json"], text), (["low", "tea.dialog.json"], text),
    (["wine.dialog.json"], wine)]

/-- A shelf with one script. -/
def shelf (text : String) : FileTree := .directory [("tea.dialog.json", .file text.toUTF8)]

/-- What a file system has in the cupboard. -/
def volume (entries : List (String × FileTree)) : Volume where
  root := .directory [("scripts", .directory entries)]

/-- A file system that lists the upper shelf first. -/
def fromTop (text wine : String) : Volume :=
  volume [("top", shelf text), ("low", shelf text), ("wine.dialog.json", .file wine.toUTF8)]

/-- A file system that lists the upper shelf last. -/
def fromBottom (text wine : String) : Volume :=
  volume [("wine.dialog.json", .file wine.toUTF8), ("low", shelf text), ("top", shelf text)]

theorem lists_fromTop (text wine : String) :
    Lists Volume.disk (fromTop text wine) "/scripts" "/scripts" (files text wine) := by
  have hbelow : (fromTop text wine).filesBelow "/scripts" =
      [["top", "tea.dialog.json"], ["low", "tea.dialog.json"], ["wine.dialog.json"]].filter
        (Volume.isListed "/scripts") := rfl
  have hlisted : ((fromTop text wine).filesBelow "/scripts").filter isDialogFile =
      [["top", "tea.dialog.json"], ["low", "tea.dialog.json"], ["wine.dialog.json"]] := by
    rw [hbelow]
    decide +kernel
  have htop : (fromTop text wine).find? (Path.join "/scripts" (Path.relative
      ["top", "tea.dialog.json"])) = some (.file text.toUTF8) := rfl
  have hlow : (fromTop text wine).find? (Path.join "/scripts" (Path.relative
      ["low", "tea.dialog.json"])) = some (.file text.toUTF8) := rfl
  have hwine : (fromTop text wine).find? (Path.join "/scripts" (Path.relative
      ["wine.dialog.json"])) = some (.file wine.toUTF8) := rfl
  refine lists_volume rfl rfl hlisted (List.forall_mem_cons.2 ⟨htop, ?_⟩)
  exact List.forall_mem_cons.2 ⟨hlow, List.forall_mem_singleton.2 hwine⟩

theorem lists_fromBottom (text wine : String) :
    Lists Volume.disk (fromBottom text wine) "/scripts" "/scripts" (files text wine).reverse := by
  have hbelow : (fromBottom text wine).filesBelow "/scripts" =
      [["wine.dialog.json"], ["low", "tea.dialog.json"], ["top", "tea.dialog.json"]].filter
        (Volume.isListed "/scripts") := rfl
  have hlisted : ((fromBottom text wine).filesBelow "/scripts").filter isDialogFile =
      [["wine.dialog.json"], ["low", "tea.dialog.json"], ["top", "tea.dialog.json"]] := by
    rw [hbelow]
    decide +kernel
  have htop : (fromBottom text wine).find? (Path.join "/scripts" (Path.relative
      ["top", "tea.dialog.json"])) = some (.file text.toUTF8) := rfl
  have hlow : (fromBottom text wine).find? (Path.join "/scripts" (Path.relative
      ["low", "tea.dialog.json"])) = some (.file text.toUTF8) := rfl
  have hwine : (fromBottom text wine).find? (Path.join "/scripts" (Path.relative
      ["wine.dialog.json"])) = some (.file wine.toUTF8) := rfl
  refine lists_volume rfl rfl hlisted (List.forall_mem_cons.2 ⟨hwine, ?_⟩)
  exact List.forall_mem_cons.2 ⟨hlow, List.forall_mem_singleton.2 htop⟩

theorem wellNamed_files (text wine : String) : WellNamed (files text wine) := by
  have hnames : ∀ names ∈ (files text wine).map Prod.fst, ∀ name ∈ names,
      '/' ∉ name.toList ∧ '\\' ∉ name.toList := by
    show ∀ names ∈ [["top", "tea.dialog.json"], ["low", "tea.dialog.json"], ["wine.dialog.json"]],
      ∀ name ∈ names, '/' ∉ name.toList ∧ '\\' ∉ name.toList
    decide +kernel
  constructor
  · show [["top", "tea.dialog.json"], ["low", "tea.dialog.json"], ["wine.dialog.json"]].Nodup
    decide +kernel
  · exact fun file hfile => hnames file.1 (List.mem_map_of_mem hfile)

/-- The two shelves hold the same dialog. -/
def conflict : DialogError :=
  .command .sourceDuplicate "\"tea\" in both low/tea.dialog.json and top/tea.dialog.json"

theorem sources_files (text wine : String) : (files text wine).map sourceOf =
    [("top/tea.dialog.json", text), ("low/tea.dialog.json", text), ("wine.dialog.json", wine)] := by
  have htop : sourceName ["top", "tea.dialog.json"] = "top/tea.dialog.json" := by decide +kernel
  have hlow : sourceName ["low", "tea.dialog.json"] = "low/tea.dialog.json" := by decide +kernel
  have hwine : sourceName ["wine.dialog.json"] = "wine.dialog.json" := by decide +kernel
  simp [files, sourceOf, htop, hlow, hwine]

/-- The dialog is defined on the lower shelf, and again on the upper one. -/
theorem firstOffence_conflict {text : String} (hread : DialogDefinition.read text = .ok tea)
    (wine : String) : FirstOffence ((files text wine).map sourceOf) conflict := by
  rw [sources_files]
  have hid : DefinesId ("low/tea.dialog.json", text) tea.id := ⟨tea, hread, rfl⟩
  have hlt : "low/tea.dialog.json" < "top/tea.dialog.json" := by decide +kernel
  have hwine : ¬ "wine.dialog.json" < "top/tea.dialog.json" := by decide +kernel
  have hfirst : ∀ name ∈ ["top/tea.dialog.json", "low/tea.dialog.json", "wine.dialog.json"],
      ¬ name < "low/tea.dialog.json" := by decide +kernel
  have hmessage : DialogError.quote tea.id ++ " in both " ++ "low/tea.dialog.json" ++ " and " ++
      "top/tea.dialog.json" = "\"tea\" in both low/tea.dialog.json and top/tea.dialog.json" := by
    decide +kernel
  have hrepeats := @Offends.duplicate [("top/tea.dialog.json", text), ("low/tea.dialog.json", text),
    ("wine.dialog.json", wine)] ("top/tea.dialog.json", text) tea _ hread
    (List.mem_cons_of_mem _ List.mem_cons_self) hlt hid
  rw [hmessage] at hrepeats
  refine ⟨("top/tea.dialog.json", text), List.mem_cons_self, hrepeats, ?_⟩
  intro other hother hbefore e hoffends
  have hlow : other = ("low/tea.dialog.json", text) := by
    simp only [List.mem_cons, List.not_mem_nil, or_false] at hother
    rcases hother with rfl | rfl | rfl
    · exact absurd hbefore (String.lt_irrefl _)
    · rfl
    · exact absurd hbefore hwine
  subst hlow
  cases hoffends with
  | invalid hread' => rw [hread] at hread'; cases hread'
  | duplicate _ hmem hlt' => exact hfirst _ (List.mem_map_of_mem (f := Prod.fst) hmem) hlt'
  | broken hread' _ hbuild =>
    obtain rfl := Except.ok.inj (hread.symm.trans hread')
    cases hbuild

end Cupboard

open Cupboard in
/-- Whichever shelf is listed first, the upper one is found to repeat the lower one. -/
theorem load_forgets_listing_cupboard :
    Volume.disk.Lawful ∧
      Lists Volume.disk (fromTop teaScript.render "") "/scripts" "/scripts"
        (files teaScript.render "") ∧
      WellNamed (files teaScript.render "") ∧
      Lists Volume.disk (fromBottom teaScript.render "") "/scripts" "/scripts"
        (files teaScript.render "").reverse ∧
      (files teaScript.render "").reverse.Perm (files teaScript.render "") ∧
      ((load Volume.disk "/scripts").run.run (fromTop teaScript.render "")).1 = .error conflict ∧
      ((load Volume.disk "/scripts").run.run (fromBottom teaScript.render "")).1 =
        .error conflict := by
  have htop := lists_fromTop teaScript.render ""
  have hbottom := lists_fromBottom teaScript.render ""
  have hnamed := wellNamed_files teaScript.render ""
  have hperm := List.reverse_perm (files teaScript.render "")
  obtain ⟨hsame, -, -, herror⟩ := load_forgets_listing Volume.lawful_disk htop hnamed
  have hfirst := firstOffence_conflict read_teaScript ""
  have hconflict := (herror (List.cons_ne_nil _ _) conflict).2 hfirst
  have hequal := hsame Volume.disk _ _ _ Volume.lawful_disk hbottom hperm
  exact ⟨Volume.lawful_disk, htop, hnamed, hbottom, hperm, hconflict, hequal.trans hconflict⟩

end Library

end Parley

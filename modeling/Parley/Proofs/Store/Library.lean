import Mathlib.Data.List.Forall2
import Parley.Command.Library
import Parley.Proofs.Conversation.Lineage
import Parley.Proofs.Reading.Value
import Parley.Proofs.Store.Disk

/-!
# Loading scripts

Programs on a disk look at it or write to it, and fail or give a value (`Looks`, `Gives`).  Loading
a directory of scripts only looks, and all dialogs that it gives come from texts
(`Library.loaded_of_gives`).

On a disk that lists known files (`Library.Lists`) loading comes down to their names and texts
(`Library.run_load`).  If their definitions are known too, the dialogs are told without reading a
text: `Library.ofSources_eq` says what the dialogs of texts are, and `DialogDefinition.read_render`
how a text is read that a value was rendered to.
-/

namespace Parley

open List (Forall₂)

variable {σ α β : Type}

/-! ### Computations on a disk -/

/-- A computation leaves the disk alone. -/
def Looks (x : StateM σ α) : Prop := ∀ s, (x.run s).2 = s

/-- A computation on a disk does not fail, but gives a value. -/
def Gives (x : ExceptT DialogError (StateM σ) α) (s : σ) (a : α) (s' : σ) : Prop :=
  x.run.run s = (.ok a, s')

section

variable {x : ExceptT DialogError (StateM σ) α} {f : α → ExceptT DialogError (StateM σ) β}
  {s s' : σ} {a : α}

theorem Looks.bind {x : StateM σ α} {f : α → StateM σ β} (hx : Looks x) (hf : ∀ a, Looks (f a)) :
    Looks (x >>= f) := fun s => (hf _ _).trans (hx s)

theorem Looks.bindExcept (hx : Looks x.run) (hf : ∀ a, Looks (f a).run) :
    Looks (x >>= f).run := by
  refine Looks.bind (f := ExceptT.bindCont f) hx fun o => ?_
  cases o with
  | ok a => exact hf a
  | error e => exact fun _ => rfl

theorem Looks.lift {x : StateM σ α} (hx : Looks x) :
    Looks (liftM x : ExceptT DialogError (StateM σ) α).run := hx

theorem looks_liftExcept (o : Except DialogError α) :
    Looks (liftM o : ExceptT DialogError (StateM σ) α).run := fun _ => rfl

theorem looks_throw (e : DialogError) :
    Looks (throw e : ExceptT DialogError (StateM σ) α).run := fun _ => rfl

theorem looks_pure (a : α) : Looks (pure a : ExceptT DialogError (StateM σ) α).run := fun _ => rfl

theorem Gives.eq_of_looks (h : Gives x s a s') (hx : Looks x.run) : s' = s := by
  have hs := hx s
  rw [Gives] at h
  rw [h] at hs
  exact hs

theorem run_bind : (x >>= f).run.run s =
    match x.run.run s with
    | (.ok a, s₁) => (f a).run.run s₁
    | (.error e, s₁) => (.error e, s₁) := by
  show (ExceptT.bindCont f (x.run.run s).1).run (x.run.run s).2 = _
  rcases x.run.run s with ⟨_ | a, s₁⟩ <;> rfl

theorem run_bind_of_gives (h : Gives x s a s') :
    (x >>= f).run.run s = (f a).run.run s' := by
  rw [Gives] at h
  rw [run_bind, h]

theorem run_lift (x : StateM σ α) (s : σ) :
    (liftM x : ExceptT DialogError (StateM σ) α).run.run s = (.ok (x.run s).1, (x.run s).2) := rfl

theorem gives_bind_iff {b : β} :
    Gives (x >>= f) s b s' ↔ ∃ a s₁, Gives x s a s₁ ∧ Gives (f a) s₁ b s' := by
  unfold Gives
  rw [run_bind]
  constructor
  · intro h
    rcases hx : x.run.run s with ⟨_ | a, s₁⟩
    · rw [hx] at h
      cases h
    · rw [hx] at h
      exact ⟨a, s₁, rfl, h⟩
  · rintro ⟨a, s₁, hx, hf⟩
    rw [hx]
    exact hf

/-- What only looks at the disk comes first without changing it. -/
theorem gives_bind_iff_of_looks (hx : Looks x.run) {b : β} :
    Gives (x >>= f) s b s' ↔ ∃ a, Gives x s a s ∧ Gives (f a) s b s' := by
  rw [gives_bind_iff]
  constructor
  · rintro ⟨a, s₁, ha, hb⟩
    obtain rfl := ha.eq_of_looks hx
    exact ⟨a, ha, hb⟩
  · rintro ⟨a, ha, hb⟩
    exact ⟨a, s, ha, hb⟩

theorem gives_pure_iff {b : α} :
    Gives (pure b : ExceptT DialogError (StateM σ) α) s a s' ↔ b = a ∧ s = s' := by
  show ((Except.ok b : Except DialogError α), s) = (.ok a, s') ↔ _
  rw [Prod.mk.injEq, Except.ok.injEq]

theorem not_gives_throw (e : DialogError) :
    ¬ Gives (throw e : ExceptT DialogError (StateM σ) α) s a s' := fun h => by cases h

theorem gives_lift_iff {x : StateM σ α} :
    Gives (liftM x : ExceptT DialogError (StateM σ) α) s a s' ↔ x.run s = (a, s') := by
  show ((Except.ok (x.run s).1 : Except DialogError α), (x.run s).2) = (.ok a, s') ↔ _
  rw [Prod.mk.injEq, Except.ok.injEq, Prod.ext_iff]

theorem gives_liftExcept_iff {o : Except DialogError α} :
    Gives (liftM o : ExceptT DialogError (StateM σ) α) s a s' ↔ o = .ok a ∧ s = s' := by
  show (o, s) = (.ok a, s') ↔ _
  rw [Prod.mk.injEq]

end

/-! ### Texts on disks -/

theorem Disk.run_readText (disk : Disk (StateM σ)) (path : String) (s : σ) :
    (disk.readText path).run s = (match ((disk.read path).run s).1 with
      | .error detail => .error detail
      | .ok bytes => match String.fromUTF8? bytes with
        | some text => .ok text
        | none => .error "stream did not contain valid UTF-8", ((disk.read path).run s).2) := rfl

theorem Volume.run_readText_of_find? {v : Volume} {path text : String}
    (h : v.find? path = some (.file text.toUTF8)) :
    (Volume.disk.readText path).run v = (.ok text, v) := by
  rw [Disk.run_readText, Volume.run_read_of_find? h]
  dsimp only
  rw [fromUTF8?_toUTF8]

namespace Disk.Lawful

variable {disk : Disk (StateM σ)} (h : disk.Lawful)

include h

theorem looks_readText (path : String) : Looks (disk.readText path) :=
  Looks.bind (h.read path) fun _ _ => rfl

theorem looks_resolve (path : String) : Looks (disk.resolve path) := by
  unfold Disk.resolve
  split
  · exact fun _ => rfl
  · exact Looks.bind h.workingDirectory fun _ _ => rfl

theorem written_text {path text : String} {s s' : σ}
    (hw : (disk.writeText path text).run s = (.ok (), s')) :
    (disk.kind? path).run s' = (some .file, s') ∧
      (disk.readText path).run s' = (.ok text, s') := by
  obtain ⟨hkind, hread⟩ := h.written hw
  refine ⟨hkind, ?_⟩
  rw [Disk.run_readText, hread]
  dsimp only
  rw [fromUTF8?_toUTF8]

end Disk.Lawful

/-! ### Scripts -/

namespace Library

theorem loaded_of_add {l l' : Loaded} {source : String × String} (h : l.add source = .ok l')
    (hl : ∀ entry ∈ l.dialogs, entry.2.Loaded) : ∀ entry ∈ l'.dialogs, entry.2.Loaded := by
  obtain ⟨definition, hread, h⟩ := exists_of_bind_eq_ok h
  cases ho : Keyed.get? l.origins definition.id with
  | some origin =>
    rw [ho] at h
    cases h
  | none =>
    rw [ho] at h
    obtain ⟨d, hd, h⟩ := exists_of_bind_eq_ok h
    cases h
    have hdialog : d.Loaded := by
      refine ⟨source.2, {}, ?_⟩
      cases hr : DialogDefinition.read source.2 with
      | error e =>
        rw [hr] at hread
        cases hread
      | ok definition' =>
        rw [hr] at hread
        cases hread
        rw [Dialog.load, hr]
        exact hd
    intro entry hentry
    rcases Keyed.mem_insert hentry with rfl | hentry
    · exact hdialog
    · exact hl entry hentry

/-- The dialogs of files come from texts. -/
theorem loaded_of_ofSources {sources : Keyed String} {dialogs : DialogSet}
    (h : ofSources sources = .ok dialogs) : ∀ entry ∈ dialogs, entry.2.Loaded := by
  have hfold (sources : Keyed String) (l l' : Loaded) (h : sources.foldlM Loaded.add l = .ok l')
      (hl : ∀ entry ∈ l.dialogs, entry.2.Loaded) : ∀ entry ∈ l'.dialogs, entry.2.Loaded := by
    induction sources generalizing l with
    | nil =>
      cases h
      exact hl
    | cons source rest ih =>
      rw [List.foldlM_cons] at h
      obtain ⟨l₁, hadd, hrest⟩ := exists_of_bind_eq_ok h
      exact ih l₁ hrest (loaded_of_add hadd hl)
  unfold ofSources at h
  cases hl : sources.foldlM Loaded.add {} with
  | error e =>
    rw [hl] at h
    cases h
  | ok l =>
    rw [hl] at h
    cases h
    exact hfold sources {} l hl fun _ hentry => absurd hentry List.not_mem_nil

section

variable {disk : Disk (StateM σ)} (hdisk : disk.Lawful)

include hdisk

theorem looks_readSource (directory : String) (sources : Keyed String) (names : List String) :
    Looks (readSource disk directory sources names).run := by
  unfold readSource
  refine .bindExcept (Looks.lift (hdisk.looks_readText _)) fun text => ?_
  cases text with
  | error detail => exact looks_throw _
  | ok text => exact looks_pure _

theorem looks_load (path : String) : Looks (load disk path).run := by
  unfold load
  refine .bindExcept (Looks.lift (hdisk.looks_resolve path)) fun directory =>
    .bindExcept (Looks.lift (hdisk.kind? directory)) fun kind => ?_
  match kind with
  | none => exact looks_throw _
  | some .file => exact looks_throw _
  | some .directory =>
    refine .bindExcept (Looks.lift (hdisk.filesBelow directory)) fun files => ?_
    have hread (names : List (List String)) (sources : Keyed String) :
        Looks (names.foldlM (readSource disk directory) sources).run := by
      induction names generalizing sources with
      | nil => exact looks_pure _
      | cons name rest ih =>
        rw [List.foldlM_cons]
        exact .bindExcept (looks_readSource hdisk directory sources name) ih
    refine .bindExcept (hread _ []) fun sources => ?_
    dsimp only
    split
    · exact .bindExcept (looks_throw _) fun _ =>
        .bindExcept (looks_liftExcept _) fun _ => looks_pure _
    · exact .bindExcept (looks_liftExcept _) fun _ => looks_pure _

omit hdisk in
/-- **The dialogs of a directory come from texts.** -/
theorem loaded_of_gives {path : String} {s s' : σ} {library : Library}
    (h : Gives (load disk path) s library s') : ∀ entry ∈ library.dialogs, entry.2.Loaded := by
  unfold load at h
  obtain ⟨directory, _, -, h⟩ := gives_bind_iff.1 h
  obtain ⟨kind, _, -, h⟩ := gives_bind_iff.1 h
  match kind with
  | none => exact absurd h (not_gives_throw _)
  | some .file => exact absurd h (not_gives_throw _)
  | some .directory =>
    obtain ⟨files, _, -, h⟩ := gives_bind_iff.1 h
    obtain ⟨sources, _, -, h⟩ := gives_bind_iff.1 h
    dsimp only at h
    split at h
    · obtain ⟨_, _, hthrow, -⟩ := gives_bind_iff.1 h
      exact absurd hthrow (not_gives_throw _)
    · obtain ⟨dialogs, _, hdialogs, h⟩ := gives_bind_iff.1 h
      obtain ⟨rfl, -⟩ := gives_pure_iff.1 h
      exact loaded_of_ofSources (gives_liftExcept_iff.1 hdialogs).1

end

/-! ### Known scripts -/

/-- One more definition, in a file of a name. -/
def Loaded.addDefinition (l : Loaded) (source : String × DialogDefinition) :
    Except DialogError Loaded :=
  match Keyed.get? l.origins source.2.id with
  | some origin =>
    throw (.command .sourceDuplicate
      (DialogError.quote source.2.id ++ " in both " ++ origin ++ " and " ++ source.1))
  | none => do
    let d ← source.2.toDialog {}
    return {
      dialogs := l.dialogs.add d
      origins := Keyed.insert l.origins source.2.id source.1 }

/-- The dialogs of definitions, each in a file of a name. -/
def ofDefinitions (definitions : List (String × DialogDefinition)) :
    Except DialogError DialogSet :=
  (definitions.foldlM Loaded.addDefinition {}).map Loaded.dialogs

theorem add_eq_of_read {l : Loaded} {name text : String} {definition : DialogDefinition}
    (h : DialogDefinition.read text = .ok definition) :
    l.add (name, text) = l.addDefinition (name, definition) := by
  have hadd : l.add (name, text) =
      (DialogDefinition.read text).mapError (.inFile name) >>= fun definition =>
        l.addDefinition (name, definition) := rfl
  rw [hadd, h]
  rfl

/-- A text defines what it is read as. -/
def Defines (source : String × String) (definition : String × DialogDefinition) : Prop :=
  source.1 = definition.1 ∧ DialogDefinition.read source.2 = .ok definition.2

theorem ofSources_eq {sources : Keyed String} {definitions : List (String × DialogDefinition)}
    (h : Forall₂ Defines sources definitions) : ofSources sources = ofDefinitions definitions := by
  have hfold (l : Loaded) :
      sources.foldlM Loaded.add l = definitions.foldlM Loaded.addDefinition l := by
    induction h generalizing l with
    | nil => rfl
    | @cons source definition sources definitions hd _ ih =>
      obtain ⟨name, text⟩ := source
      obtain ⟨name', definition⟩ := definition
      obtain ⟨rfl, hread⟩ : name = name' ∧ _ := hd
      rw [List.foldlM_cons, List.foldlM_cons, add_eq_of_read hread]
      exact congrArg _ (funext ih)
  rw [ofSources, ofDefinitions, hfold]

/-! ### Known files -/

/-- A path leads to a directory, and the disk lists these dialog files in it, in this order and with
these texts. -/
structure Lists (disk : Disk (StateM σ)) (s : σ) (path directory : String)
    (files : List (List String × String)) : Prop where
  resolved : ((disk.resolve path).run s).1 = directory
  isDirectory : ((disk.kind? directory).run s).1 = some .directory
  listed : ((disk.filesBelow directory).run s).1.filter isDialogFile = files.map Prod.fst
  readable : ∀ file ∈ files,
    ((disk.readText (Path.join directory (Path.relative file.1))).run s).1 = .ok file.2

theorem lists_volume {v : Volume} {directory : String} {files : List (List String × String)}
    (habsolute : Path.isAbsolute directory = true)
    (hkind : (v.find? directory).map FileTree.kind = some .directory)
    (hlisted : (v.filesBelow directory).filter isDialogFile = files.map Prod.fst)
    (htexts : ∀ file ∈ files,
      v.find? (Path.join directory (Path.relative file.1)) = some (.file file.2.toUTF8)) :
    Lists Volume.disk v directory directory files where
  resolved := by
    rw [Disk.resolve, if_pos habsolute]
    rfl
  isDirectory := by rw [Volume.run_kind?, hkind]
  listed := hlisted
  readable file hfile := congrArg Prod.fst (Volume.run_readText_of_find? (htexts file hfile))

/-- What is read from a file: how it is called, and its text. -/
def sourceOf (file : List String × String) : String × String := (sourceName file.1, file.2)

section

variable {disk : Disk (StateM σ)} (hdisk : disk.Lawful) {s : σ} {path directory : String}
  {files : List (List String × String)}

include hdisk

theorem gives_readSource {file : List String × String}
    (h : ((disk.readText (Path.join directory (Path.relative file.1))).run s).1 = .ok file.2)
    (sources : Keyed String) :
    Gives (readSource disk directory sources file.1) s
      (sources.insert (sourceOf file).1 (sourceOf file).2) s := by
  have hread : (disk.readText (Path.join directory (Path.relative file.1))).run s =
      (.ok file.2, s) := Prod.ext h (hdisk.looks_readText _ s)
  unfold readSource
  exact gives_bind_iff.2 ⟨.ok file.2, s, gives_lift_iff.2 hread, gives_pure_iff.2 ⟨rfl, rfl⟩⟩

theorem gives_readSources
    (h : ∀ file ∈ files,
      ((disk.readText (Path.join directory (Path.relative file.1))).run s).1 = .ok file.2)
    (sources : Keyed String) :
    Gives ((files.map Prod.fst).foldlM (readSource disk directory) sources) s
      (Keyed.insertAll sources (files.map sourceOf)) s := by
  induction files generalizing sources with
  | nil => exact gives_pure_iff.2 ⟨rfl, rfl⟩
  | cons file rest ih =>
    have hfirst := gives_readSource hdisk (h file List.mem_cons_self) sources
    rw [List.map_cons, List.foldlM_cons]
    exact gives_bind_iff.2
      ⟨_, s, hfirst, ih (fun other hother => h other (List.mem_cons_of_mem file hother)) _⟩

theorem run_load (h : Lists disk s path directory files) :
    (load disk path).run.run s =
      (if files = [] then .error (.command .sourceEmpty directory)
        else (ofSources (Keyed.ofEntries (files.map sourceOf))).map (⟨directory, ·⟩), s) := by
  have hresolve : Gives (liftM (disk.resolve path)) s directory s :=
    gives_lift_iff.2 (Prod.ext h.resolved (hdisk.looks_resolve path s))
  have hkind : Gives (liftM (disk.kind? directory)) s (some .directory) s :=
    gives_lift_iff.2 (Prod.ext h.isDirectory (hdisk.kind? directory s))
  have hbelow : Gives (liftM (disk.filesBelow directory)) s
      ((disk.filesBelow directory).run s).1 s :=
    gives_lift_iff.2 (Prod.ext rfl (hdisk.filesBelow directory s))
  have hread := gives_readSources hdisk h.readable []
  rw [← h.listed] at hread
  have hempty : (Keyed.insertAll [] (files.map sourceOf)).isEmpty = true ↔ files = [] := by
    rw [List.isEmpty_iff, Keyed.insertAll_eq_nil_iff, List.map_eq_nil_iff, and_iff_left rfl]
  unfold load
  rw [run_bind_of_gives hresolve, run_bind_of_gives hkind]
  dsimp only
  rw [run_bind_of_gives hbelow, run_bind_of_gives hread]
  split
  · next hnone => rw [if_pos (hempty.1 hnone)]; rfl
  · next hsome =>
    rw [if_neg fun hnone => hsome (hempty.2 hnone)]
    show _ = ((ofSources (Keyed.insertAll [] (files.map sourceOf))).map _, s)
    cases ofSources (Keyed.insertAll [] (files.map sourceOf)) <;> rfl

/-- What is loaded from files that define dialogs. -/
theorem gives_load (h : Lists disk s path directory files) (hfiles : files ≠ [])
    {dialogs : DialogSet}
    (hdialogs : ofSources (Keyed.ofEntries (files.map sourceOf)) = .ok dialogs) :
    Gives (load disk path) s ⟨directory, dialogs⟩ s := by
  rw [Gives, run_load hdisk h, if_neg hfiles, hdialogs]
  rfl

end

end Library

/-- A text that a value was rendered to defines what the value is decoded as. -/
theorem DialogDefinition.read_render {v : Json} (h : v.Integral) {definition : DialogDefinition}
    (hv : decoder Decoder.depthLimit v.document = some definition) :
    read v.render = .ok definition := by
  rw [read, Decoder.text?, Json.parse?_render h, Option.bind_some, hv]

end Parley

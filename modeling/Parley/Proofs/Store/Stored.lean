import Parley.Proofs.Persistence
import Parley.Proofs.Store.Command
import Parley.Proofs.Store.Turn

/-!
# What commands have stored

A conversation is kept in a file from one command to the next.  `Stored disk path dialogs r s` says
that commands which have succeeded, however many, have brought it to where the file of a path holds
the record `r`, on the dialogs that the scripts defined in the last of them; in between the scripts
may have been changed, other conversations may have gone on, and the file may have been moved.

All sessions of such a record rest, so the file is loaded as this record if its containers nest no
deeper than a text that is read may have them, and it is not a record any more if they nest deeper
(`Stored.loads_within_limit`).  There is no bound on how deep they nest: a dialog that has ended
leaves its variables as one variable of the dialog below, and that one begins the next dialog with
all the variables it has.  A ladder does this as often as it has rungs, and a tall one is lost as
soon as it has been climbed (`Stored.tall_ladder_is_lost`).
-/

namespace Parley

open Command (Success)

variable {σ : Type}

/-- The sessions of a record rest, and have their dialogs. -/
structure Record.Sound (dialogs : DialogSet) (r : Record) : Prop where
  version : r.version = recordVersion
  rests : ∀ f ∈ r.stack.frames, f.session.Rests
  registered : ∀ f ∈ r.stack.frames, Keyed.contains dialogs f.dialog = true

theorem Record.Sound.exact {dialogs : DialogSet} {r : Record} (h : r.Sound dialogs) : r.Exact :=
  fun f hf => (h.rests f hf).toExact

/-- A file holds the text of a record. -/
structure Disk.Holds (disk : Disk (StateM σ)) (path : String) (r : Record) (s : σ) : Prop where
  kind : (disk.kind? path).run s = (some .file, s)
  text : (disk.readText path).run s = (.ok r.toJson.render, s)

/-- Commands that have succeeded have left a record in the file of a path. -/
inductive Stored (disk : Disk (StateM σ)) : String → DialogSet → Record → σ → Prop where
  /-- A conversation has been started. -/
  | started {c : StartCommand} {s s' : σ} (t : Success disk (.start c) s s')
      (ha : t.prepared.stack.Addressable) :
      Stored disk t.path t.prepared.stack.dialogs t.record s'
  /-- A conversation has gone on. -/
  | said {c : SayCommand} {dialogs : DialogSet} {r : Record} {s s' : σ}
      (t : Success disk (.say c) s s') (h : Stored disk t.path dialogs r s)
      (ha : t.prepared.stack.Addressable) :
      Stored disk t.path t.prepared.stack.dialogs t.record s'
  /-- Something else has happened to the disk, and the same is found now, at this path or another
  one. -/
  | found {path path' : String} {dialogs : DialogSet} {r : Record} {s s' : σ}
      (h : Stored disk path dialogs r s)
      (hkind : ((disk.kind? path').run s').1 = ((disk.kind? path).run s).1)
      (hread : ((disk.read path').run s').1 = ((disk.read path).run s).1) :
      Stored disk path' dialogs r s'

/-! ### Stacks -/

namespace Stack

variable {st : Stack}

theorem atRest_empty (dialogs : DialogSet) (clock : ℕ → UInt32) :
    (Stack.empty dialogs clock).AtRest := fun _ hf => absurd hf List.not_mem_nil

/-- Whether the sessions of a stack rest is seen from its snapshot. -/
theorem atRest_iff : st.AtRest ↔ ∀ f ∈ st.snapshot.frames, f.session.Rests := by
  simp [AtRest, snapshot]

theorem sound_record (hq : st.Quiescent) (hrest : st.AtRest) (p : Command.Prepared) :
    (p.record st).Sound st.dialogs where
  version := rfl
  rests := atRest_iff.1 hrest
  registered f hf := by
    obtain ⟨g, hg, rfl⟩ := List.mem_map.1 hf
    obtain ⟨d, hd⟩ := hq.registered g (List.mem_reverse.1 hg)
    exact contains_of_find_eq_ok hd

end Stack

/-! ### Files -/

section

variable {disk : Disk (StateM σ)} {path : String} {r : Record} {s s' : σ}

/-- A sound record that a file holds is loaded if it does not nest too deep. -/
theorem Disk.Holds.run_load {dialogs : DialogSet} (h : disk.Holds path r s)
    (hr : r.Sound dialogs) :
    (StateFile.load disk path).run.run s =
      (if r.depth ≤ Decoder.depthLimit then .ok r
        else .error (.commandDetail .stateInvalid "" "not a record"), s) := by
  rw [StateFile.run_load h.kind h.text, Record.text?_render hr.exact]
  by_cases hdepth : r.depth ≤ Decoder.depthLimit
  · rw [if_pos hdepth, if_pos hdepth]
    dsimp only
    rw [if_pos hr.version]
  · rw [if_neg hdepth, if_neg hdepth]

theorem Disk.Holds.eq_of_gives {dialogs : DialogSet} (h : disk.Holds path r s)
    (hr : r.Sound dialogs) {r' : Record} (hload : Gives (StateFile.load disk path) s r' s') :
    r' = r := by
  rw [Gives, h.run_load hr] at hload
  obtain ⟨hloaded, -⟩ := Prod.mk.inj hload
  split at hloaded
  · exact (Except.ok.inj hloaded).symm
  · cases hloaded

theorem Disk.Holds.congr (hdisk : disk.Lawful) (h : disk.Holds path r s) {path' : String}
    (hkind : ((disk.kind? path').run s').1 = ((disk.kind? path).run s).1)
    (hread : ((disk.read path').run s').1 = ((disk.read path).run s).1) :
    disk.Holds path' r s' := by
  refine ⟨Prod.ext (hkind.trans ?_) (hdisk.kind? path' s'),
    Prod.ext ?_ (hdisk.looks_readText path' s')⟩
  · rw [h.kind]
  · have htext := h.text
    rw [Disk.run_readText] at htext ⊢
    rw [hread]
    exact (Prod.mk.inj htext).1

/-! ### Commands -/

theorem Library.stack_loaded {directory : String} {library : Library}
    (h : Gives (Library.load disk directory) s library s') {st : Stack}
    (hst : st.dialogs = library.dialogs) : st.Loaded := by
  intro id d hd
  rw [hst] at hd
  exact DialogSet.forall_of_find (Library.loaded_of_gives h) id d hd

namespace Command.Success

theorem holds (hdisk : disk.Lawful) {c : Command} (t : Success disk c s s') :
    disk.Holds t.path t.record s' :=
  ⟨(hdisk.written_text t.save).1, (hdisk.written_text t.save).2⟩

/-- A command that succeeds on a stack that rests stores a sound record. -/
theorem sound {c : Command} (t : Success disk c s s')
    (hq : t.prepared.stack.Quiescent) (hloaded : t.prepared.stack.Loaded)
    (ha : t.prepared.stack.Addressable) (hrest : t.prepared.stack.AtRest)
    (hturn : t.prepared.call.IsTurn) (hfaithful : t.prepared.call.Faithful) :
    t.record.Sound t.prepared.stack.dialogs := by
  have hreturns : Stack.Returns t.prepared.call t.prepared.stack (.ok t.status) t.stack :=
    ⟨t.rounds, t.call⟩
  have hafter := hq.atRest_of_returns hloaded ha hrest hturn hfaithful hreturns
  rw [← hreturns.dialogs_eq]
  exact Stack.sound_record (hq.returns hreturns) hafter t.prepared

theorem sound_start (hdisk : disk.Lawful) {c : StartCommand} (t : Success disk (.start c) s s')
    (ha : t.prepared.stack.Addressable) : t.record.Sound t.prepared.stack.dialogs := by
  obtain ⟨library, key, hlibrary, -, hprepared⟩ := t.started hdisk
  have hstack : t.prepared.stack = Stack.empty library.dialogs t.clock := by rw [hprepared]
  have hcall : t.prepared.call = .start c.entryDialog
      { thread := c.thread, channel := some c.address.channel } := by rw [hprepared]
  refine t.sound ?_ (Library.stack_loaded hlibrary ?_) ha ?_ ?_ ?_
  · rw [hstack]
    exact Stack.quiescent_empty _ _
  · rw [hstack]
    rfl
  · rw [hstack]
    exact Stack.atRest_empty _ _
  · rw [hcall]
    trivial
  · rw [hcall]
    exact Json.exact_object_nil

theorem sound_say (hdisk : disk.Lawful) {c : SayCommand} (t : Success disk (.say c) s s')
    (ha : t.prepared.stack.Addressable) {dialogs : DialogSet} (h : disk.Holds t.path r s)
    (hr : r.Sound dialogs) : t.record.Sound t.prepared.stack.dialogs := by
  obtain ⟨key, r', library, stack, -, hload, hlibrary, hstack, hprepared⟩ := t.restored hdisk
  obtain rfl : r' = r := h.eq_of_gives hr hload
  have hst : t.prepared.stack = stack := by rw [hprepared]
  have hcall : t.prepared.call = .continueTurn (c.address.message c.text) := by rw [hprepared]
  obtain ⟨hsnapshot, fs, n, hfresh⟩ := Stack.of_ofSnapshot hstack
  refine t.sound ?_ (Library.stack_loaded hlibrary ?_) ha ?_ ?_ ?_
  · rw [hst]
    exact (Stack.quiescent_empty _ _).restoreFrames hstack
  · rw [hst, hfresh]
    rfl
  · rw [hst]
    exact Stack.atRest_iff.2 (hsnapshot ▸ hr.rests)
  · rw [hcall]
    trivial
  · rw [hcall]
    exact TurnInput.faithful_message _ _ _ _

end Command.Success

end

namespace Stored

variable {disk : Disk (StateM σ)} {path : String} {dialogs : DialogSet} {r : Record} {s : σ}

/-- What has been stored is sound, and the file holds it. -/
theorem sound (hdisk : disk.Lawful) (h : Stored disk path dialogs r s) :
    r.Sound dialogs ∧ disk.Holds path r s := by
  induction h with
  | started t ha => exact ⟨t.sound_start hdisk ha, t.holds hdisk⟩
  | said t _ ha ih => exact ⟨t.sound_say hdisk ha ih.2 ih.1, t.holds hdisk⟩
  | found _ hkind hread ih => exact ⟨ih.1, ih.2.congr hdisk hkind hread⟩

theorem gives_load (hdisk : disk.Lawful) (h : Stored disk path dialogs r s)
    (hdepth : r.depth ≤ Decoder.depthLimit) : Gives (StateFile.load disk path) s r s := by
  obtain ⟨hr, hholds⟩ := h.sound hdisk
  rw [Gives, hholds.run_load hr, if_pos hdepth]

end Stored

/-! ### A ladder -/

theorem eq_ok_of_isSome {ε α : Type} {x : Except ε α} (h : x.toOption.isSome = true) (a : α) :
    x = .ok (x.toOption.getD a) := by
  cases x with
  | error e => cases h
  | ok a => rfl

namespace Ladder

/-- A line that begins a dialog, the values of which are kept. -/
def rung : LineDefinition := {
  action := some "beginDialog"
  execute := some { script := "step" }
  collect := some { key := some "k" } }

/-- How `rung` is written. -/
def rungValue : Json := .object [("action", .string "beginDialog"),
  ("execute", .object [("script", .string "step")]), ("collect", .object [("key", .string "k")])]

/-- A line that asks a question. -/
def question : LineDefinition := {
  text := some (.one "Well?")
  collect := some { key := some "k" } }

/-- How `question` is written. -/
def questionValue : Json :=
  .object [("text", .string "Well?"), ("collect", .object [("key", .string "k")])]

/-- A ladder has a number of rungs and a question on top.  What is kept on a rung has in it what was
kept on the rung below. -/
def ladder (n : ℕ) : DialogDefinition where
  id := "ladder"
  threads := [("default", List.replicate n rung ++ [question])]

/-- A dialog that ends at once. -/
def step : DialogDefinition where
  id := "step"
  threads := [("default", [{ action := some "complete" }])]

/-- A script of lines. -/
def script (id : String) (lines : List Json) : Json :=
  .object [("id", .string id), ("threads", .object [("default", .array lines)])]

/-- The script of a ladder. -/
def ladderScript (n : ℕ) : Json := script "ladder" (List.replicate n rungValue ++ [questionValue])

/-- The script of the dialog that ends at once. -/
def stepScript : Json := script "step" [.object [("action", .string "complete")]]

theorem integral_script (id : String) {lines : List Json} (h : ∀ line ∈ lines, line.Integral) :
    (script id lines).Integral :=
  ⟨trivial, ⟨Json.integralItems_iff.2 h, trivial⟩, trivial⟩

theorem integral_ladderScript (n : ℕ) : (ladderScript n).Integral := by
  refine integral_script _ fun line hline => ?_
  rcases List.mem_append.1 hline with hline | hline
  · rw [List.eq_of_mem_replicate hline]
    simp [rungValue, Json.Integral, Json.IntegralMembers]
  · rw [List.mem_singleton.1 hline]
    simp [questionValue, Json.Integral, Json.IntegralMembers]

theorem integral_stepScript : stepScript.Integral :=
  integral_script _ (by simp [Json.Integral, Json.IntegralMembers])

/-- The files of the two dialogs. -/
def definitions (n : ℕ) : List (String × DialogDefinition) :=
  [("ladder.dialog.json", ladder n), ("step.dialog.json", step)]

/-- The dialogs of the two scripts. -/
def dialogs (n : ℕ) : DialogSet := (Library.ofDefinitions (definitions n)).toOption.getD []

/-- A file system with two scripts, and what else is in its root. -/
def shelf (ladderText stepText : String) (others : List (String × FileTree)) : Volume where
  root := .directory (("scripts", .directory [
    ("ladder.dialog.json", .file ladderText.toUTF8),
    ("step.dialog.json", .file stepText.toUTF8)]) :: others)

/-- A file system with a ladder. -/
def volume (n : ℕ) (others : List (String × FileTree)) : Volume :=
  shelf (ladderScript n).render stepScript.render others

/-- A state file with a text, in its directories. -/
def stateTree (text : String) : List (String × FileTree) :=
  [("state", .directory [("web", .directory [("conversations", .directory [("1-ann",
    .directory [("dialogState.json", .file text.toUTF8)])])])])]

def address : Address := ⟨"/state", "web", "1", "ann"⟩

def path : String := "/state/web/conversations/1-ann/dialogState.json"

theorem place_path :
    StateFile.path "/state" "web/conversations/1-ann/dialogState" = .ok path := rfl

theorem file_address : address.file = .ok path := rfl

/-- The scripts of a ladder are read, and no thread is longer than the ladder. -/
structure Readable (n : ℕ) : Prop where
  decoded : DialogDefinition.decoder Decoder.depthLimit (ladderScript n).document = some (ladder n)
  defined : (Library.ofDefinitions (definitions n)).toOption.isSome = true
  short : ((dialogs n).all fun entry =>
    entry.2.script.threads.all fun thread => thread.2.length ≤ 2 * n + 2) = true

theorem ofDefinitions_eq {n : ℕ} (h : Readable n) :
    Library.ofDefinitions (definitions n) = .ok (dialogs n) := eq_ok_of_isSome h.defined []

theorem gives_load_shelf {ladderText stepText : String} {dialogs : DialogSet}
    (h : Library.ofSources [("ladder.dialog.json", ladderText), ("step.dialog.json", stepText)] =
      .ok dialogs) (others : List (String × FileTree)) :
    Gives (Library.load Volume.disk "/scripts") (shelf ladderText stepText others)
      ⟨"/scripts", dialogs⟩ (shelf ladderText stepText others) := by
  have hbelow : (shelf ladderText stepText others).filesBelow "/scripts" =
      [["ladder.dialog.json"], ["step.dialog.json"]] := rfl
  have hfiles : ((shelf ladderText stepText others).filesBelow "/scripts").filter
      Library.isDialogFile = [["ladder.dialog.json"], ["step.dialog.json"]] := by
    rw [hbelow]
    decide +kernel
  have hladder : (shelf ladderText stepText others).find?
      (Path.join "/scripts" (Path.relative ["ladder.dialog.json"])) =
        some (.file ladderText.toUTF8) := rfl
  have hstep : (shelf ladderText stepText others).find?
      (Path.join "/scripts" (Path.relative ["step.dialog.json"])) =
        some (.file stepText.toUTF8) := rfl
  have hlists : Library.Lists Volume.disk (shelf ladderText stepText others) "/scripts" "/scripts"
      [(["ladder.dialog.json"], ladderText), (["step.dialog.json"], stepText)] :=
    Library.lists_volume rfl rfl hfiles
      (List.forall_mem_cons.2 ⟨hladder, List.forall_mem_singleton.2 hstep⟩)
  have hsources : Keyed.ofEntries ([(["ladder.dialog.json"], ladderText),
      (["step.dialog.json"], stepText)].map Library.sourceOf) =
        [("ladder.dialog.json", ladderText), ("step.dialog.json", stepText)] := by
    have hladder : Library.sourceName ["ladder.dialog.json"] = "ladder.dialog.json" := by
      decide +kernel
    have hstep : Library.sourceName ["step.dialog.json"] = "step.dialog.json" := by decide +kernel
    have hlt : ¬ "step.dialog.json" < "ladder.dialog.json" := by decide +kernel
    simp [Library.sourceOf, Keyed.ofEntries, Keyed.insertAll, Keyed.insert, hladder, hstep, hlt]
  exact Library.gives_load Volume.lawful_disk hlists (List.cons_ne_nil _ _) (by rw [hsources, h])

theorem gives_library {n : ℕ} (h : Readable n) (others : List (String × FileTree)) :
    Gives (Library.load Volume.disk "/scripts") (volume n others) ⟨"/scripts", dialogs n⟩
      (volume n others) := by
  have hladder : DialogDefinition.read (ladderScript n).render = .ok (ladder n) :=
    DialogDefinition.read_render (integral_ladderScript n) h.decoded
  have hstep : DialogDefinition.read stepScript.render = .ok step :=
    DialogDefinition.read_render integral_stepScript rfl
  refine gives_load_shelf ?_ others
  rw [← ofDefinitions_eq h]
  exact Library.ofSources_eq (.cons ⟨rfl, hladder⟩ (.cons ⟨rfl, hstep⟩ .nil))

theorem readable_one : Readable 1 := ⟨rfl, rfl, by decide +kernel⟩

theorem readable_tall : Readable 122 := ⟨by rfl, by decide +kernel, by decide +kernel⟩

theorem addressable_dialogs {n : ℕ} (h : Readable n) (hn : 2 * n + 2 ≤ 1000) :
    ∀ id d, (dialogs n).find id = .ok d → d.Addressable := by
  refine DialogSet.forall_of_find fun entry hentry thread lines hlines => ?_
  have hall := List.all_eq_true.1 h.short entry hentry
  have hlength : lines.length ≤ 2 * n + 2 := of_decide_eq_true
    (List.all_eq_true.1 hall (thread, lines) (Keyed.mem_of_get?_eq_some hlines))
  have hbound : 1000 ≤ Session.indexBound := by decide
  omega

/-! ### Climbing -/

/-- The command that begins to climb. -/
def opening : StartCommand := ⟨address, "/scripts", "ladder", none⟩

/-- The command that answers the question. -/
def answer (text : String) : SayCommand := ⟨address, text⟩

/-- The call that begins to climb. -/
def climb : Stack.Call := .start "ladder" { channel := some "web" }

/-- A clock that has stopped. -/
def clock : ℕ → UInt32 := fun _ => 7

/-- A turn that is ready to be taken. -/
def prepared (st : Stack) (c : Stack.Call) : Command.Prepared where
  key := "web/conversations/1-ann/dialogState"
  stateDirectory := "/state"
  scriptsDirectory := "/scripts"
  entryDialog := "ladder"
  stack := st
  call := c

/-- The record of a stack that climbs. -/
def recordOf (st : Stack) : Record := (prepared st climb).record st

/-- How deep the record of a stack nests that climbs. -/
def height (st : Stack) : ℕ := (recordOf st).depth

theorem depth_le {st : Stack} {height' : ℕ} (h : height st = height')
    (hle : height' ≤ Decoder.depthLimit) : (recordOf st).depth ≤ Decoder.depthLimit :=
  (Nat.le_of_eq h).trans hle

theorem run_writeText_shelf (ladderText stepText text : String) :
    (Volume.disk.writeText path text).run (shelf ladderText stepText []) =
      (.ok (), shelf ladderText stepText (stateTree text)) := rfl

theorem run_writeText_shelf_again (ladderText stepText text text' : String) :
    (Volume.disk.writeText path text').run (shelf ladderText stepText (stateTree text)) =
      (.ok (), shelf ladderText stepText (stateTree text')) := rfl

/-- Beginning to climb succeeds if the turn does. -/
def start {n : ℕ} (h : Readable n) {rounds : ℕ} {status : Option TurnStatus} {st : Stack}
    (hcall : (Stack.empty (dialogs n) clock).call rounds climb = some (.ok status, st)) :
    Success Volume.disk (.start opening) (volume n [])
      (volume n (stateTree (recordOf st).toJson.render)) where
  rounds := rounds
  clock := clock
  prepared := prepared (Stack.empty (dialogs n) clock) climb
  before := volume n []
  status := status
  stack := st
  path := path
  prepare := gives_bind_iff.2 ⟨_, _, gives_library h [], gives_pure_iff.2 ⟨rfl, rfl⟩⟩
  call := hcall
  place := place_path
  save := run_writeText_shelf _ _ _

theorem stored_start {n : ℕ} (h : Readable n) (hn : 2 * n + 2 ≤ 1000) {rounds : ℕ}
    {status : Option TurnStatus} {st : Stack}
    (hcall : (Stack.empty (dialogs n) clock).call rounds climb = some (.ok status, st)) :
    Stored Volume.disk path (dialogs n) (recordOf st)
      (volume n (stateTree (recordOf st).toJson.render)) :=
  .started (start h hcall) (addressable_dialogs h hn)

/-- Answering succeeds if the stack that was stored is restored and the turn succeeds. -/
def say {n : ℕ} (h : Readable n) {text reply : String} {st restored st' : Stack}
    (hload : Gives (StateFile.load Volume.disk path) (volume n (stateTree text)) (recordOf st)
      (volume n (stateTree text)))
    (hrestored : Stack.ofSnapshot (dialogs n) clock st.snapshot = .ok restored) {rounds : ℕ}
    {status : Option TurnStatus}
    (hcall : restored.call rounds (.continueTurn (address.message reply)) =
      some (.ok status, st')) :
    Success Volume.disk (.say (answer reply)) (volume n (stateTree text))
      (volume n (stateTree (recordOf st').toJson.render)) where
  rounds := rounds
  clock := clock
  prepared := prepared restored (.continueTurn (address.message reply))
  before := volume n (stateTree text)
  status := status
  stack := st'
  path := path
  prepare := by
    refine gives_bind_iff.2 ⟨"web/conversations/1-ann/dialogState", _,
      gives_liftExcept_iff.2 ⟨rfl, rfl⟩, ?_⟩
    refine gives_bind_iff.2 ⟨path, _, gives_liftExcept_iff.2 ⟨place_path, rfl⟩, ?_⟩
    refine gives_bind_iff.2 ⟨recordOf st, _, hload, ?_⟩
    refine gives_bind_iff.2 ⟨_, _, gives_library h _, ?_⟩
    refine gives_bind_iff.2 ⟨restored, _, gives_liftExcept_iff.2 ⟨hrestored, rfl⟩, ?_⟩
    exact gives_pure_iff.2 ⟨rfl, rfl⟩
  call := hcall
  place := place_path
  save := run_writeText_shelf_again _ _ _ _

theorem stored_say {n : ℕ} (h : Readable n) (hn : 2 * n + 2 ≤ 1000) {text reply : String}
    {st restored st' : Stack}
    (hstored : Stored Volume.disk path (dialogs n) (recordOf st) (volume n (stateTree text)))
    (hdepth : (recordOf st).depth ≤ Decoder.depthLimit)
    (hrestored : Stack.ofSnapshot (dialogs n) clock st.snapshot = .ok restored) {rounds : ℕ}
    {status : Option TurnStatus}
    (hcall : restored.call rounds (.continueTurn (address.message reply)) =
      some (.ok status, st')) :
    Stored Volume.disk path restored.dialogs (recordOf st')
      (volume n (stateTree (recordOf st').toJson.render)) := by
  have hload := hstored.gives_load Volume.lawful_disk hdepth
  obtain ⟨-, fs, k, hfresh⟩ := Stack.of_ofSnapshot hrestored
  have haddressable : restored.Addressable := by
    rw [hfresh]
    exact addressable_dialogs h hn
  exact .said (say h hload hrestored hcall) hstored haddressable

/-- The stack that has climbed one rung. -/
def climbed : Stack := (Stack.empty (dialogs 1) clock).behind 5 climb

/-- The stack that is restored on the rung. -/
def restored : Stack :=
  (Stack.ofSnapshot (dialogs 1) clock climbed.snapshot).toOption.getD (Stack.empty [] clock)

/-- The stack on which the question has been answered. -/
def answered : Stack := restored.behind 5 (.continueTurn (address.message "Yes."))

theorem call_climbed :
    (Stack.empty (dialogs 1) clock).call 5 climb = some (.ok (some .waiting), climbed) ∧
      height climbed = 7 := by
  have h : ((Stack.empty (dialogs 1) clock).call 5 climb).map
      (fun x => (x.1.toOption, height x.2)) = some (some (some .waiting), 7) := by
    decide +kernel
  exact Stack.call_behind h

theorem ofSnapshot_climbed :
    Stack.ofSnapshot (dialogs 1) clock climbed.snapshot = .ok restored :=
  eq_ok_of_isSome (by decide +kernel) _

theorem call_answered :
    restored.call 5 (.continueTurn (address.message "Yes.")) =
        some (.ok (some .complete), answered) ∧ height answered = 3 := by
  have h : (restored.call 5 (.continueTurn (address.message "Yes."))).map
      (fun x => (x.1.toOption, height x.2)) = some (some (some .complete), 3) := by
    decide +kernel
  exact Stack.call_behind h

/-- The stack that has climbed a ladder that is too tall. -/
def lost : Stack := (Stack.empty (dialogs 122) clock).behind 250 climb

theorem call_lost :
    (Stack.empty (dialogs 122) clock).call 250 climb = some (.ok (some .waiting), lost) ∧
      height lost = 128 := by
  have h : ((Stack.empty (dialogs 122) clock).call 250 climb).map
      (fun x => (x.1.toOption, height x.2)) = some (some (some .waiting), 128) := by
    decide +kernel
  exact Stack.call_behind h

end Ladder

/-! ### Loading -/

namespace Stored

variable {disk : Disk (StateM σ)} {path : String} {dialogs : DialogSet} {r : Record} {s : σ}

/-- **What commands have stored is loaded** as it is if its containers nest no deeper than they may,
and is refused otherwise; and the stack in it can always be restored on the same dialogs. -/
theorem loads_within_limit (hdisk : disk.Lawful) (h : Stored disk path dialogs r s) :
    (StateFile.load disk path).run.run s =
        (if r.depth ≤ Decoder.depthLimit then .ok r
          else .error (.commandDetail .stateInvalid "" "not a record"), s) ∧
      ∀ clock, ∃ st, Stack.ofSnapshot dialogs clock r.stack = .ok st ∧ st.snapshot = r.stack := by
  obtain ⟨hr, hholds⟩ := h.sound hdisk
  refine ⟨hholds.run_load hr, fun clock => ?_⟩
  obtain ⟨st, hst⟩ := Stack.exists_restoreFrames r.stack.frames (Stack.empty dialogs clock)
    hr.registered
  exact ⟨st, hst, (Stack.of_ofSnapshot hst).1⟩

theorem loads_within_limit_ladder : ∃ dialogs r v, Volume.disk.Lawful ∧
    Stored Volume.disk Ladder.path dialogs r v ∧
      (StateFile.load Volume.disk Ladder.path).run.run v = (.ok r, v) ∧
        ∃ st, Stack.ofSnapshot dialogs Ladder.clock r.stack = .ok st ∧ st.snapshot = r.stack := by
  obtain ⟨hclimb, hheight⟩ := Ladder.call_climbed
  obtain ⟨hanswer, hheight'⟩ := Ladder.call_answered
  have hstarted := Ladder.stored_start Ladder.readable_one (by omega) hclimb
  have hstored := Ladder.stored_say Ladder.readable_one (by omega) hstarted
    (Ladder.depth_le hheight (by decide)) Ladder.ofSnapshot_climbed hanswer
  obtain ⟨hload, hrestore⟩ := hstored.loads_within_limit Volume.lawful_disk
  rw [if_pos (Ladder.depth_le hheight' (by decide))] at hload
  exact ⟨_, _, _, Volume.lawful_disk, hstored, hload, hrestore Ladder.clock⟩

/-- A conversation that has been stored too deep does not go on. -/
theorem run_say_of_deep (hdisk : disk.Lawful) (h : Stored disk path dialogs r s)
    (hdeep : Decoder.depthLimit < r.depth) {c : SayCommand} (hfile : c.address.file = .ok path)
    (rounds : ℕ) (clock : ℕ → UInt32) :
    (Command.run disk rounds clock (.say c)).run s =
      (some ⟨.error (.commandDetail .stateInvalid "" "not a record"), []⟩, s) := by
  obtain ⟨hr, hholds⟩ := h.sound hdisk
  have hload := hholds.run_load hr
  rw [if_neg (Nat.not_le.2 hdeep)] at hload
  exact Command.run_say_of_error hfile hload

/-- **A conversation that has been answered with a report may be lost**: nothing that is said
afterwards is answered with another one. -/
theorem tall_ladder_is_lost : ∃ report log v,
    (Command.run Volume.disk 250 Ladder.clock (.start Ladder.opening)).run (Ladder.volume 122 []) =
        (some ⟨.ok report, log⟩, v) ∧
      ∀ rounds clock text,
        (Command.run Volume.disk rounds clock (.say (Ladder.answer text))).run v =
          (some ⟨.error (.commandDetail .stateInvalid "" "not a record"), []⟩, v) := by
  obtain ⟨hcall, hheight⟩ := Ladder.call_lost
  have hstored := Ladder.stored_start Ladder.readable_tall (by omega) hcall
  have hdeep : Decoder.depthLimit < Ladder.height Ladder.lost := by
    rw [hheight]
    decide
  refine ⟨_, _, _, Command.run_eq_report_iff.2
    ⟨Ladder.start Ladder.readable_tall hcall, rfl, rfl, rfl, rfl⟩, fun rounds clock text => ?_⟩
  have hfile : (Ladder.answer text).address.file = .ok Ladder.path := Ladder.file_address
  exact hstored.run_say_of_deep Volume.lawful_disk hdeep hfile rounds clock

end Stored
end Parley

import Parley.Command.Run
import Parley.Proofs.Store.Library

/-!
# Commands that succeed

A command that is answered with a report has been prepared, has taken a turn that did not fail, and
has written the record of the stack that the turn left behind (`Command.Success`); and whenever all
this happens it is answered with that report (`Command.run_eq_report_iff`).  On a lawful disk
preparing writes nothing, so a command that goes on with a conversation begins with the stack of the
record that was there before, on the dialogs that the scripts define then.

* `Command.Success.started`, `Command.Success.restored` : what the two commands begin with.
-/

namespace Parley

variable {σ : Type}

/-! ### State files -/

/-- The path of the state file of an address. -/
def Address.file (a : Address) : Except DialogError String := do
  StateFile.path a.stateDirectory (← a.storageKey)

namespace StateFile

variable {disk : Disk (StateM σ)}

/-- A file that holds a text is loaded as what the text is decoded as. -/
theorem run_load {path text : String} {s : σ}
    (hkind : (disk.kind? path).run s = (some .file, s))
    (hread : (disk.readText path).run s = (.ok text, s)) :
    (load disk path).run.run s =
      (match Record.decoder.text? text with
        | none => .error (.commandDetail .stateInvalid "" "not a record")
        | some r => if r.version = recordVersion then .ok r
          else .error (.command .stateSchema r.version), s) := by
  rw [load, run_bind, run_lift, hkind]
  dsimp only [Option.isNone]
  rw [if_neg Bool.false_ne_true, run_bind, run_lift, hread]
  dsimp only
  cases Record.decoder.text? text with
  | none => rfl
  | some r =>
    dsimp only
    split <;> rfl

theorem looks_decode (hdisk : disk.Lawful) (path : String) : Looks (do
    match ← disk.readText path with
    | .error detail => throw (.commandDetail .stateRead "" detail)
    | .ok text =>
      match Record.decoder.text? text with
      | none => throw (.commandDetail .stateInvalid "" "not a record")
      | some r =>
        if r.version = recordVersion then return r
        else throw (.command .stateSchema r.version) :
          ExceptT DialogError (StateM σ) Record).run := by
  refine .bindExcept (Looks.lift (hdisk.looks_readText path)) fun text => ?_
  cases text with
  | error detail => exact looks_throw _
  | ok text =>
    dsimp only
    split
    · exact looks_throw _
    · split
      · exact looks_pure _
      · exact looks_throw _

theorem looks_load (hdisk : disk.Lawful) (path : String) : Looks (load disk path).run := by
  unfold load
  refine .bindExcept (Looks.lift (hdisk.kind? path)) fun kind => ?_
  dsimp only
  split
  · exact .bindExcept (looks_throw _) fun _ => looks_decode hdisk path
  · exact looks_decode hdisk path

end StateFile

/-! ### Success -/

namespace Command

variable {disk : Disk (StateM σ)}

theorem looks_prepareStart (hdisk : disk.Lawful) (clock : ℕ → UInt32) (c : StartCommand) :
    Looks (prepareStart disk clock c).run :=
  .bindExcept (Library.looks_load hdisk _) fun _ =>
    .bindExcept (looks_liftExcept _) fun _ => looks_pure _

theorem looks_prepareSay (hdisk : disk.Lawful) (clock : ℕ → UInt32) (c : SayCommand) :
    Looks (prepareSay disk clock c).run :=
  .bindExcept (looks_liftExcept _) fun _ => .bindExcept (looks_liftExcept _) fun _ =>
    .bindExcept (StateFile.looks_load hdisk _) fun _ => .bindExcept (Library.looks_load hdisk _)
      fun _ => .bindExcept (looks_liftExcept _) fun _ => looks_pure _

theorem looks_prepare (hdisk : disk.Lawful) (clock : ℕ → UInt32) (c : Command) :
    Looks (prepare disk clock c).run := by
  cases c with
  | start c => exact looks_prepareStart hdisk clock c
  | say c => exact looks_prepareSay hdisk clock c

/-- A command has succeeded: with a turn that was prepared and has not failed, and with the record
of the stack behind it written into the file of the conversation. -/
structure Success (disk : Disk (StateM σ)) (c : Command) (s s' : σ) where
  rounds : ℕ
  clock : ℕ → UInt32
  prepared : Prepared
  /-- How the disk is when the turn is taken. -/
  before : σ
  status : Option TurnStatus
  /-- The stack that the turn leaves behind. -/
  stack : Stack
  /-- The path of the file that is written. -/
  path : String
  prepare : Gives (Command.prepare disk clock c) s prepared before
  call : prepared.stack.call rounds prepared.call = some (.ok status, stack)
  place : StateFile.path prepared.stateDirectory prepared.key = .ok path
  save : (disk.writeText path (prepared.record stack).toJson.render).run before = (.ok (), s')

namespace Success

variable {c : Command} {s s' : σ}

/-- What has been stored. -/
def record (t : Success disk c s s') : Record := t.prepared.record t.stack

/-- What has been reported. -/
def report (t : Success disk c s s') : Report :=
  t.prepared.report (t.status.getD t.stack.status) t.stack

/-- The events of the turn. -/
def log (t : Success disk c s s') : List Event := t.stack.log.toList

end Success

theorem gives_save_iff {path : String} {r : Record} {s s' : σ} :
    Gives (StateFile.save disk path r) s () s' ↔
      (disk.writeText path r.toJson.render).run s = (.ok (), s') := by
  unfold StateFile.save
  rw [gives_bind_iff]
  constructor
  · rintro ⟨written, s₁, hwrite, h⟩
    cases written with
    | error detail => exact absurd h (not_gives_throw _)
    | ok _ =>
      obtain ⟨-, rfl⟩ := gives_pure_iff.1 h
      exact gives_lift_iff.1 hwrite
  · exact fun h => ⟨.ok (), s', gives_lift_iff.2 h, gives_pure_iff.2 ⟨rfl, rfl⟩⟩

theorem gives_finish_iff {p : Prepared} {status : TurnStatus} {st : Stack} {s s' : σ}
    {report : Report} :
    Gives (p.finish disk status st) s report s' ↔
      ∃ path, StateFile.path p.stateDirectory p.key = .ok path ∧
        (disk.writeText path (p.record st).toJson.render).run s = (.ok (), s') ∧
          p.report status st = report := by
  unfold Prepared.finish
  rw [gives_bind_iff_of_looks (looks_liftExcept _)]
  refine exists_congr fun path => and_congr ?_ ?_
  · rw [gives_liftExcept_iff]
    exact and_iff_left rfl
  · rw [gives_bind_iff]
    constructor
    · rintro ⟨_, s₁, hsave, h⟩
      obtain ⟨hreport, rfl⟩ := gives_pure_iff.1 h
      exact ⟨gives_save_iff.1 hsave, hreport⟩
    · rintro ⟨hsave, hreport⟩
      exact ⟨(), s', gives_save_iff.2 hsave, gives_pure_iff.2 ⟨hreport, rfl⟩⟩

theorem run_take {rounds : ℕ} {p : Prepared} {s s' : σ} {report : Report} {log : List Event} :
    (p.take disk rounds).run s = (some ⟨.ok report, log⟩, s') ↔
      ∃ status st, p.stack.call rounds p.call = some (.ok status, st) ∧
        Gives (p.finish disk (status.getD st.status) st) s report s' ∧ st.log.toList = log := by
  unfold Prepared.take
  constructor
  · intro h
    split at h
    · cases h
    · cases h
    · next status st hcall =>
      obtain ⟨hanswer, hs'⟩ := Prod.mk.inj h
      obtain ⟨houtcome, hlog⟩ := Answer.mk.inj (Option.some.inj hanswer)
      exact ⟨status, st, hcall, Prod.ext houtcome hs', hlog⟩
  · rintro ⟨status, st, hcall, hfinish, rfl⟩
    rw [hcall]
    have hrun : (p.finish disk (status.getD st.status) st).run.run s = (.ok report, s') := hfinish
    show (some (Answer.mk ((p.finish disk (status.getD st.status) st).run.run s).1 _),
      ((p.finish disk (status.getD st.status) st).run.run s).2) = _
    rw [hrun]

theorem run_run {rounds : ℕ} {clock : ℕ → UInt32} {c : Command} {s : σ} :
    (run disk rounds clock c).run s =
      match (prepare disk clock c).run.run s with
      | (.error e, s₁) => (some ⟨.error e, []⟩, s₁)
      | (.ok p, s₁) => (p.take disk rounds).run s₁ := by
  unfold run
  rw [StateT.run_bind]
  rcases (prepare disk clock c).run.run s with ⟨_ | p, s₁⟩ <;> rfl

/-- **A command is answered with a report just when it has succeeded.** -/
theorem run_eq_report_iff {rounds : ℕ} {clock : ℕ → UInt32} {c : Command} {s s' : σ}
    {report : Report} {log : List Event} :
    (run disk rounds clock c).run s = (some ⟨.ok report, log⟩, s') ↔
      ∃ t : Success disk c s s', t.rounds = rounds ∧ t.clock = clock ∧ t.report = report ∧
        t.log = log := by
  rw [run_run]
  constructor
  · intro h
    rcases hprepare : (prepare disk clock c).run.run s with ⟨_ | p, s₁⟩
    · rw [hprepare] at h
      cases h
    · rw [hprepare] at h
      obtain ⟨status, st, hcall, hfinish, hlog⟩ := run_take.1 h
      obtain ⟨path, hplace, hsave, hreport⟩ := gives_finish_iff.1 hfinish
      exact ⟨⟨rounds, clock, p, s₁, status, st, path, hprepare, hcall, hplace, hsave⟩, rfl, rfl,
        hreport, hlog⟩
  · rintro ⟨t, rfl, rfl, hreport, hlog⟩
    have hprepare : (prepare disk t.clock c).run.run s = (.ok t.prepared, t.before) := t.prepare
    rw [hprepare]
    exact run_take.2 ⟨t.status, t.stack, t.call,
      gives_finish_iff.2 ⟨t.path, t.place, t.save, hreport⟩, hlog⟩

/-- A conversation does not go on when its file is not loaded. -/
theorem run_say_of_error {rounds : ℕ} {clock : ℕ → UInt32} {c : SayCommand} {s s' : σ}
    {path : String} {e : DialogError} (hfile : c.address.file = .ok path)
    (hload : (StateFile.load disk path).run.run s = (.error e, s')) :
    (run disk rounds clock (.say c)).run s = (some ⟨.error e, []⟩, s') := by
  obtain ⟨key, hkey, hpath⟩ := exists_of_bind_eq_ok hfile
  have hprepare : (prepare disk clock (.say c)).run.run s = (.error e, s') := by
    rw [prepare, prepareSay, run_bind_of_gives (gives_liftExcept_iff.2 ⟨hkey, rfl⟩),
      run_bind_of_gives (gives_liftExcept_iff.2 ⟨hpath, rfl⟩), run_bind, hload]
  rw [run_run, hprepare]

namespace Success

variable {s s' : σ}

theorem before_eq (hdisk : disk.Lawful) {c : Command} (t : Success disk c s s') : t.before = s :=
  t.prepare.eq_of_looks (looks_prepare hdisk t.clock c)

theorem started (hdisk : disk.Lawful) {c : StartCommand} (t : Success disk (.start c) s s') :
    ∃ library key, Gives (Library.load disk c.scriptsDirectory) s library s ∧
      c.address.storageKey = .ok key ∧
      t.prepared = {
        key := key
        stateDirectory := c.address.stateDirectory
        scriptsDirectory := library.directory
        entryDialog := c.entryDialog
        stack := Stack.empty library.dialogs t.clock
        call := .start c.entryDialog
          { thread := c.thread, channel := some c.address.channel } } := by
  have hprepare : Gives (prepareStart disk t.clock c) s t.prepared t.before := t.prepare
  obtain ⟨library, hlibrary, h⟩ :=
    (gives_bind_iff_of_looks (Library.looks_load hdisk _)).1 hprepare
  obtain ⟨key, hkey, h⟩ := (gives_bind_iff_of_looks (looks_liftExcept _)).1 h
  exact ⟨library, key, hlibrary, (gives_liftExcept_iff.1 hkey).1, (gives_pure_iff.1 h).1.symm⟩

theorem restored (hdisk : disk.Lawful) {c : SayCommand} (t : Success disk (.say c) s s') :
    ∃ key record library stack, c.address.storageKey = .ok key ∧
      Gives (StateFile.load disk t.path) s record s ∧
      Gives (Library.load disk record.scriptsDirectory) s library s ∧
      Stack.ofSnapshot library.dialogs t.clock record.stack = .ok stack ∧
      t.prepared = {
        key := key
        stateDirectory := c.address.stateDirectory
        scriptsDirectory := record.scriptsDirectory
        entryDialog := record.entryDialog
        stack := stack
        call := .continueTurn (c.address.message c.text) } := by
  have hprepare : Gives (prepareSay disk t.clock c) s t.prepared t.before := t.prepare
  obtain ⟨key, hkey, h⟩ := (gives_bind_iff_of_looks (looks_liftExcept _)).1 hprepare
  obtain ⟨path, hpath, h⟩ := (gives_bind_iff_of_looks (looks_liftExcept _)).1 h
  obtain ⟨record, hrecord, h⟩ :=
    (gives_bind_iff_of_looks (StateFile.looks_load hdisk _)).1 h
  obtain ⟨library, hlibrary, h⟩ :=
    (gives_bind_iff_of_looks (Library.looks_load hdisk _)).1 h
  obtain ⟨stack, hstack, h⟩ := (gives_bind_iff_of_looks (looks_liftExcept _)).1 h
  have hprepared := (gives_pure_iff.1 h).1.symm
  have hplace := t.place
  rw [hprepared] at hplace
  obtain rfl := Except.ok.inj ((gives_liftExcept_iff.1 hpath).1.symm.trans hplace)
  exact ⟨key, record, library, stack, (gives_liftExcept_iff.1 hkey).1, hrecord, hlibrary,
    (gives_liftExcept_iff.1 hstack).1, hprepared⟩

end Success

end Command

end Parley

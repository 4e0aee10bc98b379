import Parley.Command.Response
import Parley.Proofs.Store.Stored
import Parley.Proofs.Store.Writing

/-!
# What the program does to the disk

Whatever the program is asked, it writes at most once, and last of all: when the command has been
prepared, the turn has been taken and the path of the state file is known.  So unless this one write
fails, a response that tells of no success comes with a disk on which nothing has happened, and
tells nothing of what the turn had brought until then; and a response that tells of success comes
with a disk on which one file has changed, that of the conversation (`Program.respond_effect`).
-/

namespace Parley

variable {σ : Type} {disk : Disk (StateM σ)} {s s' : σ}

/-! ### Lines -/

/-- What a turn has brought, as it is printed. -/
def TellsOfTurn (line : String) : Prop :=
  ∃ text, line = "MESSAGE_JSON:" ++ text ∨ line = "RESULT_JSON:" ++ text

theorem Report.ok_mem_lines (r : Report) : "RESULT:OK" ∈ r.lines := by
  simp [Report.lines]

theorem getElem?_labelled {label : String} {i : ℕ} {c : Char} (h : label.toList[i]? = some c)
    (text : String) : (label ++ text).toList[i]? = some c := by
  obtain ⟨hi, -⟩ := List.getElem?_eq_some_iff.1 h
  rw [String.toList_append, List.getElem?_append_left hi, h]

/-- Behind the first one all lines of an error tell about it. -/
theorem DialogError.eq_of_mem_lines {e : DialogError} {line : String} (h : line ∈ e.lines) :
    line = "RESULT:ERROR" ∨ line.toList[0]? = some 'E' := by
  rcases List.mem_append.1 h with h | h
  · rcases List.mem_cons.1 h with h | h
    · exact .inl h
    · rcases List.mem_cons.1 h with rfl | h
      · exact .inr (getElem?_labelled (by decide) _)
      · rw [List.mem_singleton.1 h]
        exact .inr (getElem?_labelled (by decide) _)
  · obtain ⟨l, -, rfl⟩ := Option.map_eq_some_iff.1 (Option.mem_toList.1 h)
    exact .inr (getElem?_labelled (by decide) _)

theorem DialogError.ok_not_mem_lines (e : DialogError) : "RESULT:OK" ∉ e.lines := by
  intro h
  rcases eq_of_mem_lines h with heq | hfirst
  · exact absurd heq (by decide)
  · exact absurd hfirst (by decide)

theorem TellsOfTurn.begins {line : String} (h : TellsOfTurn line) :
    line.toList[0]? = some 'M' ∨ line.toList[0]? = some 'R' ∧ line.toList[6]? = some '_' := by
  obtain ⟨text, rfl | rfl⟩ := h
  · exact .inl (getElem?_labelled (by decide) text)
  · exact .inr ⟨getElem?_labelled (by decide) text, getElem?_labelled (by decide) text⟩

theorem DialogError.not_tellsOfTurn {e : DialogError} {line : String} (h : line ∈ e.lines) :
    ¬ TellsOfTurn line := by
  intro htells
  rcases eq_of_mem_lines h with rfl | herror
  · rcases htells.begins with hfirst | ⟨-, hbehind⟩
    · exact absurd hfirst (by decide)
    · exact absurd hbehind (by decide)
  · rcases htells.begins with hfirst | ⟨hfirst, -⟩
    · exact absurd (herror.symm.trans hfirst) (by decide)
    · exact absurd (herror.symm.trans hfirst) (by decide)

theorem Program.not_tellsOfTurn_help {line : String} (h : line ∈ help) : ¬ TellsOfTurn line := by
  have hhelp : ∀ line ∈ help, line.toList[0]? ≠ some 'M' ∧ line.toList[0]? ≠ some 'R' := by decide
  intro htells
  rcases htells.begins with hfirst | ⟨hfirst, -⟩
  · exact (hhelp line h).1 hfirst
  · exact (hhelp line h).2 hfirst

/-! ### Commands -/

/-- The address of a command. -/
def Command.address : Command → Address
  | .start c => c.address
  | .say c => c.address

namespace Command

variable {rounds : ℕ} {clock : ℕ → UInt32} {c : Command} {log : List Event}

theorem Success.file_address (hdisk : disk.Lawful) (t : Success disk c s s') :
    c.address.file = .ok t.path := by
  have hkey : c.address.storageKey = .ok t.prepared.key ∧
      t.prepared.stateDirectory = c.address.stateDirectory := by
    cases c with
    | start c =>
      obtain ⟨library, key, -, hkey, hprepared⟩ := t.started hdisk
      rw [hprepared]
      exact ⟨hkey, rfl⟩
    | say c =>
      obtain ⟨key, record, library, stack, hkey, -, -, -, hprepared⟩ := t.restored hdisk
      rw [hprepared]
      exact ⟨hkey, rfl⟩
  rw [Address.file, hkey.1, ← hkey.2]
  exact t.place

theorem run_finish (p : Prepared) (status : TurnStatus) (st : Stack) (s : σ) :
    (p.finish disk status st).run.run s =
      match StateFile.path p.stateDirectory p.key with
      | .error e => (.error e, s)
      | .ok path =>
        match (disk.writeText path (p.record st).toJson.render).run s with
        | (.error detail, s') => (.error (.commandDetail .stateWrite "" detail), s')
        | (.ok (), s') => (.ok (p.report status st), s') := by
  unfold Prepared.finish
  cases hpath : StateFile.path p.stateDirectory p.key with
  | error e => rfl
  | ok path =>
    rw [run_bind_of_gives (gives_liftExcept_iff.2 ⟨rfl, rfl⟩), run_bind, StateFile.save, run_bind,
      run_lift]
    dsimp only
    rcases (disk.writeText path (p.record st).toJson.render).run s with ⟨_ | _, s'⟩ <;> rfl

/-- **Nothing happens to the disk unless the state file is written**: the command succeeds, or
fails in writing. -/
theorem eq_of_run (hdisk : disk.Lawful) {answer : Option Answer}
    (h : (run disk rounds clock c).run s = (answer, s')) :
    s' = s ∨ (∃ report log, answer = some ⟨.ok report, log⟩) ∨
      ∃ detail log, answer = some ⟨.error (.commandDetail .stateWrite "" detail), log⟩ := by
  rw [run_run] at h
  -- preparing only looks, and the turn itself does not touch the disk
  have hprepare : ((prepare disk clock c).run.run s).2 = s := looks_prepare hdisk clock c s
  rcases hrun : (prepare disk clock c).run.run s with ⟨_ | p, s₁⟩
  · rw [hrun] at h hprepare
    obtain ⟨-, rfl⟩ := Prod.mk.inj h
    exact .inl hprepare
  · rw [hrun] at h hprepare
    obtain rfl : s₁ = s := hprepare
    dsimp only at h
    unfold Prepared.take at h
    split at h
    · exact .inl (Prod.mk.inj h).2.symm
    · exact .inl (Prod.mk.inj h).2.symm
    · next status st hcall =>
      have hfinish : (some ⟨((p.finish disk (status.getD st.status) st).run.run s₁).1,
          st.log.toList⟩, ((p.finish disk (status.getD st.status) st).run.run s₁).2) =
            (answer, s') := h
      rw [run_finish] at hfinish
      split at hfinish
      · exact .inl (Prod.mk.inj hfinish).2.symm
      · split at hfinish
        · exact .inr (.inr ⟨_, _, (Prod.mk.inj hfinish).1.symm⟩)
        · exact .inr (.inl ⟨_, _, (Prod.mk.inj hfinish).1.symm⟩)

end Command

/-! ### The program -/

namespace Program

variable {rounds : ℕ} {clock : ℕ → UInt32} {arguments : List String}

theorem run_respond : (respond disk rounds clock arguments).run s =
    match Arguments.read arguments with
    | .help => ({ output := help, exitCode := 0 }, s)
    | .mistake => ({ notes := help, exitCode := 2 }, s)
    | .value c =>
      match (Command.run disk rounds clock c).run s with
      | (none, s') => ({ notes := ["the turn does not end"], exitCode := 3 }, s')
      | (some answer, s') => (answer.response, s') := by
  unfold respond
  cases Arguments.read arguments with
  | help => rfl
  | mistake => rfl
  | value c =>
    dsimp only
    rw [StateT.run_bind]
    rcases (Command.run disk rounds clock c).run s with ⟨_ | answer, s'⟩ <;> rfl

/-- A command is answered as its answer is printed. -/
theorem run_respond_of_run {c : Command} {answer : Answer}
    (hread : Arguments.read arguments = .value c)
    (hrun : (Command.run disk rounds clock c).run s = (some answer, s')) :
    (respond disk rounds clock arguments).run s = (answer.response, s') := by
  rw [run_respond, hread]
  dsimp only
  rw [hrun]

/-- **What the program does to the disk.**  If it tells neither of success nor of a state file that
cannot be written, nothing has happened to the disk, and nothing of a turn is told.  If it tells of
success, the arguments are a command that has succeeded; what is told is what its turn has brought,
and one file has changed, the one of the address, which holds the stack that the turn has left. -/
theorem respond_effect {ι : Type} (hdisk : disk.Lawful) (files : disk.Filing ι) {r : Response}
    (h : (respond disk rounds clock arguments).run s = (r, s')) :
    ("RESULT:OK" ∉ r.output → "ERROR_CODE:CLI_STATE_WRITE" ∉ r.output →
      s' = s ∧ ∀ line ∈ r.output, ¬ TellsOfTurn line) ∧
    ("RESULT:OK" ∈ r.output → ∃ c, Arguments.read arguments = .value c ∧
      ∃ t : Command.Success disk c s s', t.rounds = rounds ∧ t.clock = clock ∧
        r.output = t.report.lines ∧ c.address.file = .ok t.path ∧
        disk.Holds t.path t.record s' ∧ t.record.stack = t.stack.snapshot ∧
        ∃ place, files.place? s' t.path = some place ∧
          files.file? s' place = some t.record.toJson.render.toUTF8 ∧
          ∀ other ≠ place, files.file? s' other = files.file? s other) := by
  rw [run_respond] at h
  cases hread : Arguments.read arguments with
  | help =>
    rw [hread] at h
    obtain ⟨rfl, rfl⟩ := Prod.mk.inj h
    exact ⟨fun _ _ => ⟨rfl, fun _ => not_tellsOfTurn_help⟩, fun hok => absurd hok (by decide)⟩
  | mistake =>
    rw [hread] at h
    obtain ⟨rfl, rfl⟩ := Prod.mk.inj h
    exact ⟨fun _ _ => ⟨rfl, nofun⟩, nofun⟩
  | value c =>
    rw [hread] at h
    dsimp only at h
    rcases hrun : (Command.run disk rounds clock c).run s with ⟨_ | ⟨e | report, log⟩, s₁⟩
    · rw [hrun] at h
      obtain ⟨rfl, rfl⟩ := Prod.mk.inj h
      -- a turn that does not end is not stored
      rcases Command.eq_of_run hdisk hrun with heq | ⟨_, _, hanswer⟩ | ⟨_, _, hanswer⟩
      · exact ⟨fun _ _ => ⟨heq, nofun⟩, nofun⟩
      · cases hanswer
      · cases hanswer
    · rw [hrun] at h
      obtain ⟨rfl, rfl⟩ := Prod.mk.inj h
      refine ⟨fun _ hwrite => ⟨?_, fun _ => DialogError.not_tellsOfTurn⟩,
        fun hok => absurd hok e.ok_not_mem_lines⟩
      rcases Command.eq_of_run hdisk hrun with heq | ⟨_, _, hanswer⟩ | ⟨detail, _, hanswer⟩
      · exact heq
      · cases hanswer
      · -- the one failure behind which the disk may have changed is told by its code
        cases hanswer
        exact absurd (List.mem_cons_of_mem _ List.mem_cons_self) hwrite
    · rw [hrun] at h
      obtain ⟨rfl, rfl⟩ := Prod.mk.inj h
      refine ⟨fun hok => absurd report.ok_mem_lines hok, fun _ => ⟨c, rfl, ?_⟩⟩
      obtain ⟨t, hrounds, hclock, hreport, -⟩ := Command.run_eq_report_iff.1 hrun
      have hsave := t.save
      rw [t.before_eq hdisk] at hsave
      exact ⟨t, hrounds, hclock, congrArg Report.lines hreport.symm, t.file_address hdisk,
        t.holds hdisk, rfl, files.written hsave⟩

/-- The arguments that begin to climb a ladder. -/
def openingArguments : List String :=
  ["agent", "start", "--state-dir=/state", "--channel", "web", "--conversation", "1", "--user",
    "ann", "--scripts-dir", "/scripts", "--entry-dialog", "ladder"]

/-- The arguments that answer the question on top of it. -/
def answerArguments : List String :=
  ["agent", "say", "--state-dir=/state", "--channel", "web", "--conversation", "1", "--user",
    "ann", "--text=Yes."]

theorem read_openingArguments :
    Arguments.read openingArguments = .value (.start Ladder.opening) := rfl

theorem read_answerArguments :
    Arguments.read answerArguments = .value (.say (Ladder.answer "Yes.")) := rfl

/-- Answering before the question fails, and beginning to climb does not. -/
theorem respond_effect_ladder :
    (∃ r v, (respond Volume.disk 5 Ladder.clock answerArguments).run (Ladder.volume 1 []) = (r, v) ∧
      v = Ladder.volume 1 [] ∧ ∀ line ∈ r.output, ¬ TellsOfTurn line) ∧
    ∃ r v place, (respond Volume.disk 5 Ladder.clock openingArguments).run (Ladder.volume 1 []) =
        (r, v) ∧ "RESULT:OK" ∈ r.output ∧ v.locate Ladder.path = some place ∧
      (∃ content, v.file? place = some content) ∧
        ∀ other ≠ place, v.file? other = (Ladder.volume 1 []).file? other := by
  constructor
  · have hrun : (respond Volume.disk 5 Ladder.clock answerArguments).run (Ladder.volume 1 []) =
        (Answer.response ⟨.error (.command .stateNotFound Ladder.path), []⟩,
          Ladder.volume 1 []) :=
      run_respond_of_run read_answerArguments rfl
    obtain ⟨heq, hlines⟩ := (respond_effect Volume.lawful_disk Volume.filing hrun).1
      (by decide +kernel) (by decide +kernel)
    exact ⟨_, _, hrun, heq, hlines⟩
  · obtain ⟨hclimb, -⟩ := Ladder.call_climbed
    obtain ⟨v, started, hrounds, hclock⟩ : ∃ v,
        ∃ t : Command.Success Volume.disk (.start Ladder.opening) (Ladder.volume 1 []) v,
          t.rounds = 5 ∧ t.clock = Ladder.clock :=
      ⟨_, Ladder.start Ladder.readable_one hclimb, rfl, rfl⟩
    have hrun := run_respond_of_run read_openingArguments
      (Command.run_eq_report_iff.2 ⟨started, hrounds, hclock, rfl, rfl⟩)
    have hok := started.report.ok_mem_lines
    obtain ⟨c, hread, t, -, -, -, hfile, -, -, place, hplace, hcontent, hothers⟩ :=
      (respond_effect Volume.lawful_disk Volume.filing hrun).2 hok
    obtain rfl : Command.start Ladder.opening = c :=
      Arguments.Reading.value.inj (read_openingArguments.symm.trans hread)
    have hpath : Ladder.path = t.path := Except.ok.inj (Ladder.file_address.symm.trans hfile)
    rw [← hpath] at hplace
    exact ⟨_, _, place, hrun, hok, hplace, ⟨_, hcontent⟩, hothers⟩

end Program

end Parley

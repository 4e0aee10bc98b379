import Parley.Proofs.Translation.Line

/-!
# Loading line by line

The threads of a definition are made one after the other, and their lines in order, until one of
them is refused.

**A dialog is made line by line** (`DialogDefinition.toDialog_translates`): there is one just if all
lines are acceptable, and then each thread holds the images of its lines, one after the other.
Otherwise the error is that of the first line that is refused, with its place among the definitions.
The threads are supposed to be in the order of their names; those of a definition that is read are
(`DialogDefinition.sorted_of_read`).
-/

namespace Parley

/-! ### Threads -/

namespace DialogDefinition

variable {id thread : String} {index : ℕ} {definitions : List LineDefinition} {e : DialogError}

/-- The lines of a thread are the images of its definitions, one after the other. -/
theorem linesFrom_eq_ok_iff {lines : List Line} :
    linesFrom id thread index definitions = .ok lines ↔
      ∃ images, List.Forall₂ LineDefinition.Image definitions images ∧
        lines = images.flatten := by
  induction definitions generalizing index lines with
  | nil =>
    constructor
    · intro h
      cases h
      exact ⟨[], .nil, rfl⟩
    · rintro ⟨_, ⟨⟩, rfl⟩
      rfl
  | cons l rest ih =>
    constructor
    · intro h
      obtain ⟨first, hfirst, h⟩ := exists_of_bind_eq_ok h
      obtain ⟨more, hmore, h⟩ := exists_of_bind_eq_ok h
      cases h
      obtain ⟨images, himages, rfl⟩ := ih.1 hmore
      cases hlines : l.lines with
      | error cause =>
        rw [hlines] at hfirst
        cases hfirst
      | ok lines =>
        rw [hlines] at hfirst
        cases hfirst
        exact ⟨first :: images, .cons (LineDefinition.lines_eq_ok_iff.1 hlines) himages, rfl⟩
    · rintro ⟨_, hall, rfl⟩
      cases hall with
      | cons himage himages =>
        rw [linesFrom, LineDefinition.lines_eq_ok_iff.2 himage, ih.2 ⟨_, himages, rfl⟩]
        rfl

/-- A thread that cannot be made has a first line that is refused. -/
theorem exists_of_linesFrom_eq_error (h : linesFrom id thread index definitions = .error e) :
    ∃ before l after cause, definitions = before ++ l :: after ∧
      (∀ l' ∈ before, l'.Acceptable) ∧ l.lines = .error cause ∧
        e = .onLine id thread (index + before.length) cause := by
  induction definitions generalizing index with
  | nil => cases h
  | cons l rest ih =>
    rw [linesFrom] at h
    cases hlines : l.lines with
    | error cause =>
      rw [hlines] at h
      cases h
      exact ⟨[], l, rest, cause, rfl, fun _ h => absurd h List.not_mem_nil, hlines, rfl⟩
    | ok lines =>
      rw [hlines] at h
      cases hmore : linesFrom id thread (index + 1) rest with
      | ok more =>
        rw [hmore] at h
        cases h
      | error e' =>
        rw [hmore] at h
        cases h
        obtain ⟨before, l', after, cause, rfl, hbefore, hl', rfl⟩ := ih hmore
        refine ⟨l :: before, l', after, cause, rfl, ?_, hl', ?_⟩
        · exact List.forall_mem_cons.2 ⟨LineDefinition.acceptable_iff.2 ⟨lines, hlines⟩, hbefore⟩
        · rw [List.length_cons, Nat.add_right_comm, Nat.add_assoc]

theorem acceptable_of_linesFrom {lines : List Line}
    (h : linesFrom id thread index definitions = .ok lines) :
    ∀ l ∈ definitions, l.Acceptable := by
  obtain ⟨images, himages, -⟩ := linesFrom_eq_ok_iff.1 h
  intro l hl
  exact LineDefinition.exists_image_iff.1 (exists_forall₂_iff.1 ⟨images, himages⟩ l hl)

variable {threads : Keyed (List LineDefinition)}

theorem exists_of_threadsOf_eq_error (h : threadsOf id threads = .error e) :
    ∃ before thread definitions after, threads = before ++ (thread, definitions) :: after ∧
      (∀ entry ∈ before, ∀ l ∈ entry.2, l.Acceptable) ∧
        linesFrom id thread 0 definitions = .error e := by
  induction threads with
  | nil => cases h
  | cons entry rest ih =>
    obtain ⟨thread, definitions⟩ := entry
    rw [threadsOf] at h
    cases hlines : linesFrom id thread 0 definitions with
    | error e' =>
      rw [hlines] at h
      cases h
      exact ⟨[], thread, definitions, rest, rfl, fun _ h => absurd h List.not_mem_nil, hlines⟩
    | ok lines =>
      rw [hlines] at h
      cases hmore : threadsOf id rest with
      | ok more =>
        rw [hmore] at h
        cases h
      | error e' =>
        rw [hmore] at h
        cases h
        obtain ⟨before, thread', definitions', after, rfl, hbefore, hlines'⟩ := ih hmore
        refine ⟨(thread, definitions) :: before, thread', definitions', after, rfl, ?_, hlines'⟩
        exact List.forall_mem_cons.2 ⟨acceptable_of_linesFrom hlines, hbefore⟩

theorem exists_of_threadsOf_cons {script : Keyed (List Line)}
    (h : threadsOf id ((thread, definitions) :: threads) = .ok script) :
    ∃ lines more, linesFrom id thread 0 definitions = .ok lines ∧
      threadsOf id threads = .ok more ∧
        script = if definitions.isEmpty then more else (thread, lines) :: more := by
  obtain ⟨lines, hlines, h⟩ := exists_of_bind_eq_ok h
  obtain ⟨more, hmore, h⟩ := exists_of_bind_eq_ok h
  cases h
  exact ⟨lines, more, hlines, hmore, rfl⟩

theorem acceptable_of_threadsOf {script : Keyed (List Line)}
    (h : threadsOf id threads = .ok script) : ∀ entry ∈ threads, ∀ l ∈ entry.2, l.Acceptable := by
  induction threads generalizing script with
  | nil => exact fun _ h => absurd h List.not_mem_nil
  | cons entry rest ih =>
    obtain ⟨lines, more, hlines, hmore, -⟩ := exists_of_threadsOf_cons h
    exact List.forall_mem_cons.2 ⟨acceptable_of_linesFrom hlines, ih hmore⟩

/-- The threads that are made are those with lines. -/
theorem get?_threadsOf {script : Keyed (List Line)} (h : threadsOf id threads = .ok script)
    (hsorted : threads.Sorted) {lines : List Line} :
    script.get? thread = some lines ↔ ∃ definitions, threads.get? thread = some definitions ∧
      definitions ≠ [] ∧ linesFrom id thread 0 definitions = .ok lines := by
  induction threads generalizing script with
  | nil =>
    cases h
    simp
  | cons entry rest ih =>
    obtain ⟨name, definitions⟩ := entry
    obtain ⟨hname, hrest⟩ := List.pairwise_cons.1 hsorted
    obtain ⟨first, more, hfirst, hmore, rfl⟩ := exists_of_threadsOf_cons h
    have hothers := ih hmore hrest
    rw [Keyed.get?_cons]
    by_cases hsame : name = thread
    · subst hsame
      -- the names ascend, so this is the only thread of its name
      have hgone : Keyed.get? rest name = none :=
        Keyed.get?_eq_none fun entry hentry => (String.ne_of_lt (hname entry hentry)).symm
      rw [if_pos rfl]
      by_cases hempty : definitions = []
      · rw [if_pos (List.isEmpty_iff.2 hempty)]
        refine iff_of_false (fun hfound => ?_) ?_
        · obtain ⟨_, hdeclared, -⟩ := hothers.1 hfound
          rw [hgone] at hdeclared
          cases hdeclared
        · rintro ⟨_, ⟨⟩, hne, -⟩
          exact hne hempty
      · rw [if_neg (mt List.isEmpty_iff.1 hempty), Keyed.get?_cons, if_pos rfl]
        constructor
        · rintro ⟨⟩
          exact ⟨definitions, rfl, hempty, hfirst⟩
        · rintro ⟨_, ⟨⟩, -, hlines⟩
          rw [hfirst] at hlines
          exact congrArg some (Except.ok.inj hlines)
    · rw [if_neg hsame, ← hothers]
      split
      · exact Iff.rfl
      · rw [Keyed.get?_cons, if_neg hsame]

/-! ### Definitions that are read -/

theorem sorted_of_foldlM {α : Type} {d : Decoder α} {depth : ℕ}
    {members : List (Option String × Document)} {done m : Keyed α} (hdone : done.Sorted)
    (h : members.foldlM
      (fun done (key, doc) => do return done.insert (← key) (← d depth doc)) done = some m) :
    m.Sorted := by
  induction members generalizing done with
  | nil =>
    cases h
    exact hdone
  | cons member rest ih =>
    obtain ⟨key?, doc⟩ := member
    rw [List.foldlM_cons] at h
    obtain ⟨next, hnext, h⟩ := Option.bind_eq_some_iff.1 h
    obtain ⟨key, -, hnext⟩ := Option.bind_eq_some_iff.1 hnext
    obtain ⟨v, -, hnext⟩ := Option.bind_eq_some_iff.1 hnext
    cases hnext
    exact ih (Keyed.insert_sorted hdone key v) h

/-- The threads of a definition that is read are in order. -/
theorem sorted_of_read {source : String} {d : DialogDefinition} (h : read source = .ok d) :
    d.threads.Sorted := by
  have htable {depth : ℕ} {doc : Document} {threads : Keyed (List LineDefinition)}
      (h : Decoder.table (.list LineDefinition.decoder) depth doc = some threads) :
      threads.Sorted := by
    unfold Decoder.table at h
    split at h
    · exact sorted_of_foldlM .nil h
    · cases h
  have hfields {f : Decoder.Fields} (h : (do
      return {
        id := ← f.required "id" Decoder.string
        threads := ← f.required "threads" (.table (.list LineDefinition.decoder)) }) = some d) :
      d.threads.Sorted := by
    obtain ⟨id, -, h⟩ := Option.bind_eq_some_iff.1 h
    obtain ⟨threads, hthreads, h⟩ := Option.bind_eq_some_iff.1 h
    obtain ⟨doc, -, hthreads⟩ := Option.bind_eq_some_iff.1 hthreads
    cases h
    exact htable hthreads
  unfold read at h
  split at h
  · next hread =>
    cases h
    obtain ⟨doc, -, hdecode⟩ := Option.bind_eq_some_iff.1 hread
    unfold decoder Decoder.record at hdecode
    split at hdecode
    · obtain ⟨known, -, hdecode⟩ := Option.bind_eq_some_iff.1 hdecode
      exact hfields hdecode
    · split at hdecode
      · exact hfields hdecode
      · cases hdecode
    · cases hdecode
  · cases h

/-! ### Dialogs -/

/-- A line is the first one that is refused, counting lines in order and threads by their names. -/
structure FirstRefused (d : DialogDefinition) (thread : String) (definitions : List LineDefinition)
    (index : ℕ) (l : LineDefinition) : Prop where
  declared : d.threads.get? thread = some definitions
  line : definitions[index]? = some l
  refused : ¬ l.Acceptable
  lines_before : ∀ l' ∈ definitions.take index, l'.Acceptable
  threads_before : ∀ name definitions', d.threads.get? name = some definitions' → name < thread →
    ∀ l' ∈ definitions', l'.Acceptable

variable {d : DialogDefinition} {options : DialogOptions}

theorem exists_of_toDialog_eq_ok {dialog : Dialog} (h : d.toDialog options = .ok dialog) :
    ∃ threads, threadsOf d.id d.threads = .ok threads ∧
      dialog = { id := d.id, script := ⟨threads⟩, options := options } := by
  obtain ⟨threads, hthreads, h⟩ := exists_of_bind_eq_ok h
  exact ⟨threads, hthreads, (Except.ok.inj h).symm⟩

theorem exists_of_toDialog_eq_error (h : d.toDialog options = .error e)
    (hsorted : d.threads.Sorted) :
    ∃ thread definitions index l cause, d.FirstRefused thread definitions index l ∧
      l.lines = .error cause ∧ e = .onLine d.id thread index cause := by
  have hthreads : threadsOf d.id d.threads = .error e := by
    cases hmade : threadsOf d.id d.threads with
    | error e' =>
      rw [toDialog, hmade] at h
      cases h
      rfl
    | ok script =>
      rw [toDialog, hmade] at h
      cases h
  obtain ⟨before, thread, definitions, after, hsplit, hbefore, hlines⟩ :=
    exists_of_threadsOf_eq_error hthreads
  obtain ⟨earlier, l, later, cause, hdefinitions, hearlier, hl, he⟩ :=
    exists_of_linesFrom_eq_error hlines
  rw [Nat.zero_add] at he
  refine ⟨thread, definitions, earlier.length, l, cause, ?_, hl, he⟩
  constructor
  · refine hsorted.get?_of_mem ?_
    rw [hsplit]
    simp
  · rw [hdefinitions]
    simp
  · exact LineDefinition.not_acceptable_of_lines_eq_error hl
  · rw [hdefinitions, List.take_left]
    exact hearlier
  · -- as the names ascend, a thread with a smaller one stands before the thread that fails
    intro name definitions' hdeclared hlt
    have hmem := Keyed.mem_of_get?_eq_some hdeclared
    rw [hsplit] at hmem hsorted
    rcases List.mem_append.1 hmem with hmem | hmem
    · exact hbefore (name, definitions') hmem
    · obtain ⟨hbehind, -⟩ := List.pairwise_cons.1 (List.pairwise_append.1 hsorted).2.1
      rcases List.mem_cons.1 hmem with heq | hmem
      · obtain ⟨rfl, -⟩ := Prod.mk.inj heq
        exact absurd hlt (String.lt_irrefl name)
      · exact absurd hlt (String.lt_asymm (hbehind (name, definitions') hmem))

/-- **A dialog is made line by line.**  There is one just if every line is acceptable on its own.
Then the threads with lines hold the images of their definitions, one after the other, and there are
no other threads.  Otherwise the error is the one that the first refused line gives on its own, with
the place of the line among the definitions. -/
theorem toDialog_translates (d : DialogDefinition) (options : DialogOptions)
    (hsorted : d.threads.Sorted) :
    ((∃ dialog, d.toDialog options = .ok dialog) ↔
      ∀ entry ∈ d.threads, ∀ l ∈ entry.2, l.Acceptable) ∧
    (∀ dialog, d.toDialog options = .ok dialog →
      (dialog.id = d.id ∧ dialog.options = options ∧ dialog.hooks = {}) ∧
        ∀ thread lines, dialog.script.thread? thread = some lines ↔
          ∃ definitions images, d.threads.get? thread = some definitions ∧ definitions ≠ [] ∧
            List.Forall₂ LineDefinition.Image definitions images ∧ lines = images.flatten) ∧
    ∀ e, d.toDialog options = .error e →
      ∃ thread definitions index l cause, d.FirstRefused thread definitions index l ∧
        l.lines = .error cause ∧ e.code = cause.code ∧
          e.message = cause.message ++ " (" ++ d.id ++ "/" ++ thread ++ "[" ++ toString index ++
            "])" := by
  refine ⟨⟨?_, fun hall => ?_⟩, ?_, ?_⟩
  · rintro ⟨dialog, h⟩
    obtain ⟨script, hscript, -⟩ := exists_of_bind_eq_ok h
    exact acceptable_of_threadsOf hscript
  · cases h : d.toDialog options with
    | ok dialog => exact ⟨dialog, rfl⟩
    | error e =>
      obtain ⟨thread, definitions, index, l, cause, hfirst, -⟩ :=
        exists_of_toDialog_eq_error h hsorted
      have hentry := Keyed.mem_of_get?_eq_some hfirst.declared
      exact absurd (hall _ hentry l (List.mem_of_getElem? hfirst.line)) hfirst.refused
  · intro dialog h
    obtain ⟨script, hscript, h⟩ := exists_of_bind_eq_ok h
    cases h
    refine ⟨⟨rfl, rfl, rfl⟩, fun thread lines => ?_⟩
    refine (get?_threadsOf hscript hsorted).trans ?_
    simp only [linesFrom_eq_ok_iff, exists_and_left]
  · intro e h
    obtain ⟨thread, definitions, index, l, cause, hfirst, hl, rfl⟩ :=
      exists_of_toDialog_eq_error h hsorted
    exact ⟨thread, definitions, index, l, cause, hfirst, hl, rfl, rfl⟩

/-! ### An inn -/

/-- A line that shows a picture with its text. -/
def innGreeting : LineDefinition where
  text := some (.one "Welcome.")
  attachment := some (.object [("payload", .string "inn.png")])

/-- What is collected again until it is understood. -/
def innNights : CollectDefinition where
  key := some "nights"
  options := some (.array [.object [("action", .string "repeat"), ("default", .bool true)]])

/-- A line that asks for it in one way or another, and offers a reply. -/
def innQuestion : LineDefinition where
  text := some (.many ["How many nights?", "How long will you stay?"])
  quickReplies := some (.array [.object [("title", .string "One night")]])
  collect := some innNights

/-- A line that has a dialog begun, and collects its result. -/
def innBooking (execute : Option Execute) : LineDefinition where
  action := some "beginDialog"
  execute := execute
  collect := some {}

/-- A dialog with a thread that has no lines, and a booking in its last thread. -/
def inn (execute : Option Execute) : DialogDefinition where
  id := "inn"
  threads := [("cellar", []), ("desk", [innGreeting, innQuestion]),
    ("rooms", [{ action := some "next" }, innBooking execute])]

/-- When it is told what to begin, the inn is made, without its cellar.  The desk greets and asks
with all that the definitions of its lines say.  Otherwise the booking is refused, as line number
one of the rooms. -/
theorem toDialog_translates_inn :
    (∀ execute, (inn execute).threads.Sorted) ∧
      (∃ dialog, (inn (some ⟨"booking", none⟩)).toDialog {} = .ok dialog ∧
        dialog.script.thread? "cellar" = none ∧
        dialog.script.thread? "desk" = some [
          .message
            { text := some (.literal "Welcome.")
              attachment := some (.literal (.object [("payload", .string "inn.png")])) } none,
          .question
            { text := some (.variants ["How many nights?", "How long will you stay?"])
              quickReplies :=
                some (.literal (.array [.object [("title", .string "One night")]])) }
            { key := some "nights"
              options := [{ isDefault := true, action := some .repeatLine }] },
          .next] ∧
        dialog.script.thread? "rooms" = some [.action .next,
          .childDialog ⟨"booking", none⟩ { key := some "booking" }, .next]) ∧
      ∃ e thread definitions index l, (inn none).toDialog {} = .error e ∧
        (inn none).FirstRefused thread definitions index l ∧
        e.message = "Action \"beginDialog\" requires execute.script. (inn/rooms[1])" := by
  have hnames : ["cellar", "desk", "rooms"].Pairwise (· < ·) := by decide
  have hsorted (execute : Option Execute) : (inn execute).threads.Sorted :=
    (List.pairwise_map (f := Prod.fst)).1 hnames
  refine ⟨hsorted, ?_, ?_⟩
  · obtain ⟨-, hmade, -⟩ := toDialog_translates (inn (some ⟨"booking", none⟩)) {} (hsorted _)
    obtain ⟨dialog, hdialog⟩ : ∃ dialog,
        (inn (some ⟨"booking", none⟩)).toDialog {} = .ok dialog := ⟨_, rfl⟩
    obtain ⟨-, hthreads⟩ := hmade dialog hdialog
    have hgreeting : LineDefinition.Image innGreeting [.message innGreeting.message none] :=
      .message rfl .absent nofun
    have hnights : innNights.Handles [{ isDefault := true, action := some .repeatLine }] :=
      .list rfl (.cons ⟨_, rfl, .fallback rfl (.present rfl)⟩ .nil)
    have hquestion : LineDefinition.Image innQuestion [.question innQuestion.message
        { key := some "nights", options := [{ isDefault := true, action := some .repeatLine }] },
        .next] :=
      .question (c := innNights) rfl (fun _ h => by cases h) (fun h => by cases h) hnights
    have hnext : LineDefinition.Image { action := some "next" } [.action .next] :=
      .action rfl (.present rfl) rfl
    have hbooking : LineDefinition.Image (innBooking (some ⟨"booking", none⟩))
        [.childDialog ⟨"booking", none⟩ { key := some "booking" }, .next] :=
      .child (c := {}) rfl rfl rfl (.absent (.inl rfl))
    refine ⟨dialog, hdialog, ?_,
      (hthreads "desk" _).2
        ⟨_, _, rfl, List.cons_ne_nil _ _, .cons hgreeting (.cons hquestion .nil), rfl⟩,
      (hthreads "rooms" _).2
        ⟨_, _, rfl, List.cons_ne_nil _ _, .cons hnext (.cons hbooking .nil), rfl⟩⟩
    refine Option.eq_none_iff_forall_ne_some.2 fun lines hlines => ?_
    obtain ⟨_, _, hdeclared, hsome, -⟩ := (hthreads "cellar" lines).1 hlines
    cases hdeclared
    exact hsome rfl
  · have herror : (inn none).toDialog {} =
        .error (.onLine "inn" "rooms" 1 (.executeMissing "beginDialog")) := rfl
    obtain ⟨-, -, hrefused⟩ := toDialog_translates (inn none) {} (hsorted _)
    obtain ⟨thread, definitions, index, l, cause, hfirst, -, -, hmessage⟩ := hrefused _ herror
    exact ⟨_, thread, definitions, index, l, herror, hfirst, by decide⟩

end DialogDefinition

end Parley

import Mathlib.Data.List.Forall2
import Parley.Dialog.Definition

/-!
# What lines of a definition stand for

What is written in a definition is told here without an order of checks and without errors.
`Action.Parses` says which keywords are actions, `HandlerDefinition.Valid` which handlers can be
tried and `LineDefinition.Acceptable` which lines make sense on their own; `HandlerDefinition.Means`
and `LineDefinition.Image` are the handler and the lines that are meant.

**What is made of a line is its image** (`LineDefinition.lines_eq_ok_iff`), and a line has an image
just if it is acceptable (`LineDefinition.exists_image_iff`).
-/

namespace Parley

/-! ### Results one after the other -/

theorem exists_of_bind_eq_ok {ε α β : Type} {x : Except ε α} {f : α → Except ε β} {b : β}
    (h : (x >>= f) = .ok b) : ∃ a, x = .ok a ∧ f a = .ok b := by
  cases x with
  | error e => cases h
  | ok a => exact ⟨a, rfl, h⟩

theorem mapM_eq_ok_iff {ε α β : Type} {f : α → Except ε β} {xs : List α} {ys : List β} :
    xs.mapM f = .ok ys ↔ List.Forall₂ (fun x y => f x = .ok y) xs ys := by
  constructor
  · intro h
    induction xs generalizing ys with
    | nil =>
      cases h
      exact .nil
    | cons x xs ih =>
      rw [List.mapM_cons] at h
      obtain ⟨y, hy, h⟩ := exists_of_bind_eq_ok h
      obtain ⟨rest, hrest, h⟩ := exists_of_bind_eq_ok h
      cases h
      exact .cons hy (ih hrest)
  · intro h
    induction h with
    | nil => rfl
    | cons hy _ ih =>
      rw [List.mapM_cons, hy, ih]
      rfl

theorem exists_forall₂_iff {α β : Type} {R : α → β → Prop} {xs : List α} :
    (∃ ys, List.Forall₂ R xs ys) ↔ ∀ x ∈ xs, ∃ y, R x y := by
  induction xs with
  | nil => exact iff_of_true ⟨[], .nil⟩ nofun
  | cons x xs ih =>
    rw [List.forall_mem_cons, ← ih]
    constructor
    · rintro ⟨_, hx | ⟨hx, hxs⟩⟩
      exact ⟨⟨_, hx⟩, ⟨_, hxs⟩⟩
    · rintro ⟨⟨y, hx⟩, ⟨ys, hxs⟩⟩
      exact ⟨y :: ys, .cons hx hxs⟩

/-! ### Actions -/

namespace Action

/-- A keyword can be read as an action: one that starts a dialog needs to be told which. -/
def Parses (keyword : String) (execute : Option Execute) : Prop :=
  keyword = "execute_script" ∨ keyword = "beginDialog" → execute.isSome

/-- A keyword that may be absent, and the action that is declared with it. -/
inductive Declared (execute : Option Execute) : Option String → Option Action → Prop where
  | absent : Declared execute none none
  | present {keyword : String} {action : Action} (h : ofKeyword keyword execute = .ok action) :
    Declared execute (some keyword) (some action)

variable {keyword : String} {keyword? : Option String} {execute : Option Execute}

theorem exists_ofKeyword_iff :
    (∃ action, ofKeyword keyword execute = .ok action) ↔ Parses keyword execute := by
  unfold ofKeyword Parses
  split <;> cases execute <;> simp_all [ofKeyword.started]

theorem mapM_ofKeyword_eq_ok_iff {action? : Option Action} :
    keyword?.mapM (ofKeyword · execute) = .ok action? ↔ Declared execute keyword? action? := by
  cases keyword? with
  | none =>
    constructor
    · intro h
      cases h
      exact .absent
    · rintro ⟨⟩
      rfl
  | some keyword =>
    rw [Option.mapM_some]
    constructor
    · intro h
      cases hread : ofKeyword keyword execute with
      | error e =>
        rw [hread] at h
        cases h
      | ok action =>
        rw [hread] at h
        cases h
        exact .present hread
    · rintro (_ | h)
      rw [h]
      rfl

theorem exists_declared_iff :
    (∃ action?, Declared execute keyword? action?) ↔
      ∀ keyword ∈ keyword?, Parses keyword execute := by
  constructor
  · rintro ⟨_, _ | h⟩ keyword hkeyword
    · cases hkeyword
    · cases hkeyword
      exact exists_ofKeyword_iff.1 ⟨_, h⟩
  · intro h
    cases keyword? with
    | none => exact ⟨none, .absent⟩
    | some keyword =>
      obtain ⟨action, haction⟩ := exists_ofKeyword_iff.2 (h keyword rfl)
      exact ⟨some action, .present haction⟩

theorem declared_beginDialog_iff {begun : Execute} :
    Declared execute keyword? (some (.beginDialog begun)) ↔
      keyword? = some "beginDialog" ∧ execute = some begun := by
  constructor
  · rintro (_ | h)
    unfold ofKeyword at h
    split at h <;> cases execute <;> simp_all [ofKeyword.started]
  · rintro ⟨rfl, rfl⟩
    exact .present rfl

theorem Declared.exists_eq_beginDialog {action? : Option Action}
    (h : Declared execute (some "beginDialog") action?) :
    ∃ begun, action? = some (.beginDialog begun) := by
  obtain _ | h := h
  cases execute with
  | none => cases h
  | some begun =>
    cases h
    exact ⟨begun, rfl⟩

end Action

/-! ### Handlers -/

namespace HandlerDefinition

/-- The handler that a definition means. -/
inductive Means (d : HandlerDefinition) : Handler → Prop where
  /-- A default is tried on no answer, whatever pattern it has. -/
  | fallback {action : Option Action} (hdefault : d.isDefault = true)
      (haction : Action.Declared d.execute d.action action) :
    Means d { isDefault := true, action := action }
  | matching {source : String} {pattern : Pattern} {matchType : MatchType} {action : Option Action}
      (hdefault : d.isDefault = false) (hsource : d.pattern = some source)
      (htype : d.matchType.getD "string" = matchType.name)
      (hpattern : Pattern.compile? source = some pattern)
      (haction : Action.Declared d.execute d.action action) :
    Means d { pattern := some pattern, matchType := matchType, action := action }

/-- A definition of a handler is valid: it is a default or has a pattern that is well formed and a
type that is known, and its action can be read. -/
structure Valid (d : HandlerDefinition) : Prop where
  pattern : d.isDefault = false → ∃ source pattern matchType, d.pattern = some source ∧
    Pattern.compile? source = some pattern ∧ d.matchType.getD "string" = MatchType.name matchType
  action : ∀ keyword ∈ d.action, Action.Parses keyword d.execute

variable {d : HandlerDefinition} {h : Handler}

theorem ofName_eq_ok_iff {name : String} {matchType : MatchType} :
    MatchType.ofName name = .ok matchType ↔ name = matchType.name := by
  unfold MatchType.ofName
  split <;> cases matchType <;> simp_all [MatchType.name]

theorem matching_eq_ok_iff {source : String} {matchType : MatchType} :
    Handler.matching source matchType = .ok h ↔ ∃ pattern, Pattern.compile? source = some pattern ∧
      h = { pattern := some pattern, matchType := matchType } := by
  unfold Handler.matching
  cases Pattern.compile? source with
  | none => simp
  | some pattern => simp [eq_comm]

theorem withAction_eq_ok_iff {base : Handler} (hbase : base.action = none)
    {keyword? : Option String} {execute : Option Execute} :
    (match keyword? with
      | none => pure base
      | some keyword => do return base.withAction (← Action.ofKeyword keyword execute)) =
        Except.ok h ↔
      ∃ action, Action.Declared execute keyword? action ∧ h = { base with action := action } := by
  cases keyword? with
  | none =>
    constructor
    · intro hread
      cases hread
      exact ⟨none, .absent, by rw [← hbase]⟩
    · rintro ⟨_, _ | _, rfl⟩
      rw [← hbase]
      rfl
  | some keyword =>
    constructor
    · intro hread
      obtain ⟨action, haction, hread⟩ := exists_of_bind_eq_ok hread
      cases hread
      exact ⟨some action, .present haction, rfl⟩
    · rintro ⟨_, _ | haction, rfl⟩
      dsimp only
      rw [haction]
      rfl

/-- What a definition comes to before its action is read. -/
def base (d : HandlerDefinition) : Except DialogError Handler :=
  if d.isDefault then .ok .fallback
  else
    match d.pattern with
    | none => .error .patternMissing
    | some source => do
      Handler.matching source (← MatchType.ofName (d.matchType.getD "string"))

theorem toHandler_eq : d.toHandler = d.base >>= fun base =>
    match d.action with
    | none => pure base
    | some keyword => do return base.withAction (← Action.ofKeyword keyword d.execute) := by
  unfold toHandler base
  cases d.isDefault with
  | true => rfl
  | false =>
    cases d.pattern with
    | none => rfl
    | some source =>
      cases d.matchType with
      | none => rfl
      | some name => exact (bind_assoc (MatchType.ofName name) _ _).symm

theorem toHandler_eq_ok_iff : d.toHandler = .ok h ↔ d.Means h := by
  rw [toHandler_eq]
  constructor
  · intro hread
    obtain ⟨base, hbase, hread⟩ := exists_of_bind_eq_ok hread
    unfold HandlerDefinition.base at hbase
    split at hbase
    · next hdefault =>
      cases hbase
      obtain ⟨action, haction, rfl⟩ := (withAction_eq_ok_iff rfl).1 hread
      exact .fallback hdefault haction
    · next hdefault =>
      split at hbase
      · cases hbase
      · next source hsource =>
        obtain ⟨matchType, htype, hmatching⟩ := exists_of_bind_eq_ok hbase
        obtain ⟨pattern, hpattern, rfl⟩ := matching_eq_ok_iff.1 hmatching
        obtain ⟨action, haction, rfl⟩ := (withAction_eq_ok_iff rfl).1 hread
        exact .matching (Bool.eq_false_iff.2 hdefault) hsource
          (ofName_eq_ok_iff.1 htype) hpattern haction
  · intro hmeans
    cases hmeans with
    | fallback hdefault haction =>
      rw [base, if_pos hdefault]
      exact (withAction_eq_ok_iff rfl).2 ⟨_, haction, rfl⟩
    | matching hdefault hsource htype hpattern haction =>
      rw [base, if_neg (Bool.eq_false_iff.1 hdefault), hsource]
      dsimp only
      rw [ofName_eq_ok_iff.2 htype]
      dsimp only [bind, Except.bind]
      rw [matching_eq_ok_iff.2 ⟨_, hpattern, rfl⟩]
      exact (withAction_eq_ok_iff rfl).2 ⟨_, haction, rfl⟩

theorem exists_means_iff : (∃ h, d.Means h) ↔ d.Valid := by
  constructor
  · rintro ⟨_, ⟨hdefault, haction⟩ | ⟨hdefault, hsource, htype, hpattern, haction⟩⟩
    · exact ⟨fun hnot => absurd (hdefault.symm.trans hnot) (by decide),
        Action.exists_declared_iff.1 ⟨_, haction⟩⟩
    · exact ⟨fun _ => ⟨_, _, _, hsource, hpattern, htype⟩,
        Action.exists_declared_iff.1 ⟨_, haction⟩⟩
  · intro hvalid
    obtain ⟨action, haction⟩ := Action.exists_declared_iff.2 hvalid.action
    cases hdefault : d.isDefault with
    | true => exact ⟨_, .fallback hdefault haction⟩
    | false =>
      obtain ⟨source, pattern, matchType, hsource, hpattern, htype⟩ := hvalid.pattern hdefault
      exact ⟨_, .matching hdefault hsource htype hpattern haction⟩

/-- A value writes a handler. -/
def Written (v : Json) (h : Handler) : Prop := ∃ d, decoder.json? v = some d ∧ d.Means h

theorem handlerOf_eq_ok_iff {v : Json} : handlerOf v = .ok h ↔ Written v h := by
  unfold handlerOf Written
  cases decoder.json? v with
  | none => simp
  | some d => simp [toHandler_eq_ok_iff]

end HandlerDefinition

namespace CollectDefinition

/-- The handlers of a line, in the order in which they are written. -/
inductive Handles (c : CollectDefinition) : List Handler → Prop where
  | absent (h : c.options = none ∨ c.options = some .null) : Handles c []
  | list {items : List Json} {handlers : List Handler} (hoptions : c.options = some (.array items))
      (hhandlers : List.Forall₂ HandlerDefinition.Written items handlers) : Handles c handlers

/-- The handlers of a line are acceptable: they are absent, or a list of values that define valid
handlers. -/
def Acceptable (c : CollectDefinition) : Prop :=
  c.options = none ∨ c.options = some .null ∨ ∃ items, c.options = some (.array items) ∧
    ∀ item ∈ items, ∃ d, HandlerDefinition.decoder.json? item = some d ∧ d.Valid

variable {c : CollectDefinition}

/-- What is done with an answer, as it is built. -/
theorem of_map_key (handlers : List Handler) :
    Collect.of (c.key.map fun key => { key := key, multiple := c.multiple }) (.options handlers) =
      { key := c.key, multiple := c.key.isSome && c.multiple, options := handlers } := by
  cases hkey : c.key <;> simp [Collect.of, Handlers.toList]

theorem handlers_eq_ok_iff {handlers : List Handler} :
    c.handlers = .ok handlers ↔ c.Handles handlers := by
  constructor
  · intro h
    unfold CollectDefinition.handlers at h
    split at h
    · next hoptions =>
      cases h
      exact .absent (.inl hoptions)
    · next hoptions =>
      cases h
      exact .absent (.inr hoptions)
    · next items hoptions =>
      rw [mapM_eq_ok_iff] at h
      exact .list hoptions (h.imp fun _ _ => HandlerDefinition.handlerOf_eq_ok_iff.1)
    · cases h
  · rintro ((hoptions | hoptions) | ⟨hoptions, hhandlers⟩)
    · rw [CollectDefinition.handlers, hoptions]
    · rw [CollectDefinition.handlers, hoptions]
    · rw [CollectDefinition.handlers, hoptions]
      exact mapM_eq_ok_iff.2 (hhandlers.imp fun _ _ => HandlerDefinition.handlerOf_eq_ok_iff.2)

theorem exists_handles_iff : (∃ handlers, c.Handles handlers) ↔ c.Acceptable := by
  constructor
  · rintro ⟨_, hnone | ⟨hoptions, hhandlers⟩⟩
    · exact hnone.imp_right .inl
    · refine .inr (.inr ⟨_, hoptions, fun item hitem => ?_⟩)
      obtain ⟨h, d, hd, hmeans⟩ := exists_forall₂_iff.1 ⟨_, hhandlers⟩ item hitem
      exact ⟨d, hd, HandlerDefinition.exists_means_iff.1 ⟨h, hmeans⟩⟩
  · rintro (hnone | hnull | ⟨items, hoptions, hvalid⟩)
    · exact ⟨[], .absent (.inl hnone)⟩
    · exact ⟨[], .absent (.inr hnull)⟩
    · have hall : ∀ item ∈ items, ∃ h, HandlerDefinition.Written item h := by
        intro item hitem
        obtain ⟨d, hd, hd'⟩ := hvalid item hitem
        obtain ⟨h, hmeans⟩ := HandlerDefinition.exists_means_iff.2 hd'
        exact ⟨h, d, hd, hmeans⟩
      obtain ⟨handlers, hhandlers⟩ := exists_forall₂_iff.2 hall
      exact ⟨handlers, .list hoptions hhandlers⟩

end CollectDefinition

/-! ### Lines -/

namespace LineDefinition

/-- A line is acceptable: its action can be read, and so can its handlers if it collects an
answer. -/
structure Acceptable (l : LineDefinition) : Prop where
  action : ∀ keyword ∈ l.action, Action.Parses keyword l.execute
  collect : ∀ c ∈ l.collect, c.Acceptable

/-- The lines that a definition stands for. -/
inductive Image (l : LineDefinition) : List Line → Prop where
  /-- To collect from a dialog that is begun is to wait for its result. -/
  | child {c : CollectDefinition} {execute : Execute} {handlers : List Handler}
      (hcollect : l.collect = some c) (haction : l.action = some "beginDialog")
      (hexecute : l.execute = some execute) (hhandlers : c.Handles handlers) :
    Image l
      [.childDialog execute { key := some (c.key.getD execute.script), options := handlers }, .next]
  /-- To collect otherwise is to ask; what the action is does not matter. -/
  | question {c : CollectDefinition} {handlers : List Handler} (hcollect : l.collect = some c)
      (haction : ∀ keyword ∈ l.action, Action.Parses keyword l.execute)
      (hother : l.action ≠ some "beginDialog") (hhandlers : c.Handles handlers) :
    Image l
      [.question l.message
        { key := c.key, multiple := c.key.isSome && c.multiple, options := handlers },
        .next]
  /-- A line that says nothing may still act. -/
  | action {action : Action} (hcollect : l.collect = none)
      (haction : Action.Declared l.execute l.action (some action))
      (hcontent : l.message.hasContent = false) : Image l [.action action]
  | message {action : Option Action} (hcollect : l.collect = none)
      (haction : Action.Declared l.execute l.action action)
      (hcontent : action.isSome → l.message.hasContent = true) : Image l [.message l.message action]

variable {l : LineDefinition}

theorem lines_eq_ok_iff {lines : List Line} : l.lines = .ok lines ↔ l.Image lines := by
  constructor
  · intro h
    obtain ⟨action, haction, h⟩ := exists_of_bind_eq_ok h
    have hdeclared := Action.mapM_ofKeyword_eq_ok_iff.1 haction
    split at h
    · next c hcollect =>
      obtain ⟨handlers, hhandlers, h⟩ := exists_of_bind_eq_ok h
      have hhandles := CollectDefinition.handlers_eq_ok_iff.1 hhandlers
      split at h
      · cases h
        obtain ⟨hkeyword, hexecute⟩ := Action.declared_beginDialog_iff.1 hdeclared
        exact .child hcollect hkeyword hexecute hhandles
      · next hother =>
        cases h
        rw [CollectDefinition.of_map_key]
        refine .question hcollect (Action.exists_declared_iff.1 ⟨action, hdeclared⟩)
          (fun hkeyword => ?_) hhandles
        rw [hkeyword] at hdeclared
        obtain ⟨execute, rfl⟩ := hdeclared.exists_eq_beginDialog
        exact hother execute rfl
    · next hcollect =>
      split at h
      · split at h
        · next hcontent =>
          cases h
          exact .message hcollect hdeclared fun _ => hcontent
        · next hcontent =>
          cases h
          exact .action hcollect hdeclared (Bool.eq_false_iff.2 hcontent)
      · cases h
        exact .message hcollect hdeclared nofun
  · -- each kind of image says what is read on the way to it: the action first, then the handlers
    intro h
    cases h with
    | child hcollect hkeyword hexecute hhandlers =>
      have haction := Action.declared_beginDialog_iff.2 ⟨hkeyword, hexecute⟩
      rw [lines, Action.mapM_ofKeyword_eq_ok_iff.2 haction, hcollect]
      dsimp only [bind, Except.bind]
      rw [CollectDefinition.handlers_eq_ok_iff.2 hhandlers]
      rfl
    | question hcollect hparses hother hhandlers =>
      obtain ⟨action, haction⟩ := Action.exists_declared_iff.2 hparses
      rw [lines, Action.mapM_ofKeyword_eq_ok_iff.2 haction, hcollect]
      dsimp only [bind, Except.bind]
      rw [CollectDefinition.handlers_eq_ok_iff.2 hhandlers, ← CollectDefinition.of_map_key]
      dsimp only
      split
      · exact absurd (Action.declared_beginDialog_iff.1 haction).1 hother
      · rfl
    | action hcollect haction hcontent =>
      rw [lines, Action.mapM_ofKeyword_eq_ok_iff.2 haction, hcollect]
      dsimp only [bind, Except.bind]
      rw [if_neg (Bool.eq_false_iff.1 hcontent)]
      rfl
    | @message action hcollect haction hcontent =>
      rw [lines, Action.mapM_ofKeyword_eq_ok_iff.2 haction, hcollect]
      dsimp only [bind, Except.bind]
      cases action with
      | none => rfl
      | some action =>
        dsimp only
        rw [if_pos (hcontent rfl)]
        rfl

/-- A line stands for something just if it is acceptable. -/
theorem exists_image_iff : (∃ lines, l.Image lines) ↔ l.Acceptable := by
  have hread (action : Option Action) (haction : Action.Declared l.execute l.action action) :
      ∀ keyword ∈ l.action, Action.Parses keyword l.execute :=
    Action.exists_declared_iff.1 ⟨action, haction⟩
  constructor
  · rintro ⟨_, himage⟩
    have hnone (hcollect : l.collect = none) : ∀ c ∈ l.collect, c.Acceptable := by
      rw [hcollect]
      exact nofun
    have hsome {c : CollectDefinition} {handlers : List Handler} (hcollect : l.collect = some c)
        (hhandlers : c.Handles handlers) : ∀ c ∈ l.collect, c.Acceptable := by
      rw [hcollect]
      rintro _ ⟨⟩
      exact CollectDefinition.exists_handles_iff.1 ⟨handlers, hhandlers⟩
    cases himage with
    | child hcollect hkeyword hexecute hhandlers =>
      have haction := Action.declared_beginDialog_iff.2 ⟨hkeyword, hexecute⟩
      exact ⟨hread _ haction, hsome hcollect hhandlers⟩
    | question hcollect hparses _ hhandlers => exact ⟨hparses, hsome hcollect hhandlers⟩
    | action hcollect haction => exact ⟨hread _ haction, hnone hcollect⟩
    | message hcollect haction => exact ⟨hread _ haction, hnone hcollect⟩
  · intro h
    obtain ⟨action, haction⟩ := Action.exists_declared_iff.2 h.action
    cases hcollect : l.collect with
    | some c =>
      obtain ⟨handlers, hhandlers⟩ := CollectDefinition.exists_handles_iff.2 (h.collect c hcollect)
      by_cases hbegins : l.action = some "beginDialog"
      · rw [hbegins] at haction
        obtain ⟨execute, rfl⟩ := haction.exists_eq_beginDialog
        have hexecute := (Action.declared_beginDialog_iff.1 haction).2
        exact ⟨_, .child hcollect hbegins hexecute hhandlers⟩
      · exact ⟨_, .question hcollect h.action hbegins hhandlers⟩
    | none =>
      by_cases hcontent : action.isSome → l.message.hasContent = true
      · exact ⟨_, .message hcollect haction hcontent⟩
      · obtain ⟨hacts, hsilent⟩ := Classical.not_imp.1 hcontent
        obtain ⟨action, rfl⟩ := Option.isSome_iff_exists.1 hacts
        exact ⟨_, .action hcollect haction (Bool.eq_false_iff.2 hsilent)⟩

theorem acceptable_iff : l.Acceptable ↔ ∃ lines, l.lines = .ok lines := by
  simp only [← exists_image_iff, lines_eq_ok_iff]

theorem not_acceptable_of_lines_eq_error {cause : DialogError} (h : l.lines = .error cause) :
    ¬ l.Acceptable := by
  intro hacceptable
  obtain ⟨lines, hlines⟩ := acceptable_iff.1 hacceptable
  rw [h] at hlines
  cases hlines

end LineDefinition

end Parley

import Parley.Proofs.Course.Turn
import Parley.Proofs.Honesty
import Parley.Proofs.Store.Library

/-!
# Threads that are declared

A dialog that is loaded has the threads of its definition that have lines, and no others: a thread
comes into being with its first line.  So a thread that is declared with lines is always found, by
whatever way a session may come to it (`DialogDefinition.thread_is_there_iff`).  A thread that is
declared without lines is not there at all: a session cannot be started on it, and an action that
names it is passed over.

That a thread is found wherever it is looked for is told of the reports.  If the dialogs of a stack
are candid, then at no moment of a call anything false is on its way (`Moment.Honest`): no run, none
of those that wait, no outcome and no event.  So what a call leaves behind is true
(`Stack.reports_are_true`).
-/

namespace Parley

open Stepping

variable {dialogs : DialogSet} {old : Array Event}

theorem isTrue_of_find_eq_error {dialogs' : DialogSet} {id : String} {e : DialogError}
    (h : dialogs'.find id = .error e) : e.IsTrue dialogs := by
  unfold DialogSet.find at h
  split at h
  · cases h
  · cases h
    exact nofun

/-! ### Moments -/

/-- All dialogs are candid, and each is registered under its own id. -/
structure DialogSet.Candid (dialogs : DialogSet) : Prop where
  id_eq : ∀ id d, dialogs.find id = .ok d → d.id = id
  candid : ∀ id d, dialogs.find id = .ok d → d.Candid dialogs

/-- A run of a candid dialog reports what is true. -/
theorem DialogSet.Candid.honest_task (h : dialogs.Candid) {id : String} {d : Dialog}
    (hd : dialogs.find id = .ok d) (task : Task) : Honest dialogs (task.on d) := by
  refine (h.candid id d hd).honest_task (fun d' hd' => ?_) task
  rw [h.id_eq id d hd, hd] at hd'
  exact (Except.ok.inj hd').symm

/-- The events of a stack are old ones or true. -/
structure Stack.Honest (dialogs : DialogSet) (old : Array Event) (st : Stack) : Prop where
  dialogs_eq : st.dialogs = dialogs
  log : ∀ event ∈ st.log, event ∈ old ∨ event.IsTrue dialogs

/-- What a run still has to do reports what is true. -/
def Remainder.Honest (dialogs : DialogSet) (rest : Remainder) : Prop :=
  rest.Speaks dialogs fun y => FailsTruly dialogs y.1

/-- Nothing false is on its way. -/
def Phase.Honest (dialogs : DialogSet) : Phase → Prop
  | .entering _ task => ∃ t : Task, task = t.on
  | .running _ _ rest => Remainder.Honest dialogs rest
  | .stopped _ _ => True
  | .answering outcome => FailsTruly dialogs outcome

/-- A run that is answered what is true reports what is true. -/
def Suspended.Honest (dialogs : DialogSet) (s : Suspended) : Prop :=
  ∀ outcome, FailsTruly dialogs outcome → Remainder.Honest dialogs (s.next outcome)

/-- Nothing false is on its way, noted or kept back. -/
structure Moment.Honest (dialogs : DialogSet) (old : Array Event) (m : Moment) : Prop where
  stack : m.stack.Honest dialogs old
  phase : m.phase.Honest dialogs
  suspended : ∀ s ∈ m.suspended, s.Honest dialogs

namespace Stack.Honest

variable {st : Stack} (h : st.Honest dialogs old)

include h

theorem note (event : Event) (hevent : event.IsTrue dialogs) :
    (st.note event).Honest dialogs old := by
  refine ⟨h.dialogs_eq, fun event' hmem => ?_⟩
  rcases Array.mem_push.1 hmem with hmem | rfl
  · exact h.log event' hmem
  · exact .inr hevent

theorem beginning (dialog : String) (options : LaunchOptions) :
    (st.beginning dialog options).1.Honest dialogs old ∧
      (st.beginning dialog options).2.Honest dialogs := by
  unfold Stack.beginning
  cases hd : st.dialogs.find dialog with
  | error e => exact ⟨h, failsTruly_error (isTrue_of_find_eq_error hd)⟩
  | ok d =>
    have hnoted := h.note (.beginningDialog dialog st.nextFrame st.depth) nofun
    exact ⟨⟨hnoted.dialogs_eq, hnoted.log⟩, .begin, rfl⟩

theorem replacing (dialog : String) (options : LaunchOptions) :
    (st.replacing dialog options).1.Honest dialogs old ∧
      (st.replacing dialog options).2.Honest dialogs := by
  unfold Stack.replacing
  cases hd : st.dialogs.find dialog with
  | error e => exact ⟨h, failsTruly_error (isTrue_of_find_eq_error hd)⟩
  | ok d =>
    cases st.frames with
    | nil => exact h.beginning dialog options
    | cons frame rest =>
      have hrest : ({ st with frames := rest } : Stack).Honest dialogs old :=
        ⟨h.dialogs_eq, h.log⟩
      exact (hrest.note (.replacingDialog frame.dialog dialog) nofun).beginning dialog
        options

theorem finishing (result : Option DialogResult) :
    (st.finishing result).1.Honest dialogs old ∧ (st.finishing result).2.Honest dialogs := by
  unfold Stack.finishing
  split
  · exact ⟨h, failsTruly_ok _⟩
  · split
    · exact ⟨⟨h.dialogs_eq, h.log⟩, failsTruly_ok _⟩
    · split
      · exact ⟨⟨h.dialogs_eq, h.log⟩, failsTruly_ok _⟩
      · exact ⟨⟨h.dialogs_eq, h.log⟩, .resume _, rfl⟩

end Stack.Honest

namespace Moment.Honest

/-- What a run asks for is answered truly, or the run waits for a true answer. -/
theorem asked {st : Stack} {K : List Suspended} {id : ℕ} {taken : Session} {r : Request}
    {next : r.Answer → Remainder}
    (h : Honest dialogs old ⟨st, .running id taken (.ask r next), K⟩) :
    Honest dialogs old
      (Moment.asked ⟨st, .running id taken (.ask r next), K⟩ id taken r next) := by
  obtain ⟨hstack, ⟨hnoted, hspeaks⟩, hsuspended⟩ := h
  have hwaits {next : Except DialogError TurnStatus → Remainder}
      (hnext : ∀ outcome, FailsTruly dialogs outcome →
        Remainder.Honest dialogs (next outcome)) :
      ∀ s ∈ (⟨id, taken, next⟩ : Suspended) :: K, s.Honest dialogs :=
    List.forall_mem_cons.2 ⟨hnext, hsuspended⟩
  cases r with
  | send message =>
    exact ⟨⟨hstack.dialogs_eq, hstack.log⟩, hspeaks _ (failsTruly_ok _), hsuspended⟩
  | active => exact ⟨hstack, hspeaks _ trivial, hsuspended⟩
  | note event => exact ⟨hstack.note event (hnoted event rfl), hspeaks _ trivial, hsuspended⟩
  | seed => exact ⟨⟨hstack.dialogs_eq, hstack.log⟩, hspeaks _ trivial, hsuspended⟩
  | cancelAll =>
    have hcancelled := hstack.note (.cancellingAll st.depth) nofun
    exact ⟨⟨hcancelled.dialogs_eq, hcancelled.log⟩, hspeaks _ (failsTruly_ok _), hsuspended⟩
  | begin dialog options =>
    obtain ⟨hopened, hphase⟩ := hstack.beginning dialog options
    exact ⟨hopened, hphase, hwaits hspeaks⟩
  | replace dialog options =>
    obtain ⟨hopened, hphase⟩ := hstack.replacing dialog options
    exact ⟨hopened, hphase, hwaits hspeaks⟩
  | finish result =>
    obtain ⟨hopened, hphase⟩ := hstack.finishing result
    exact ⟨hopened, hphase, hwaits hspeaks⟩

/-- **From one moment to the next** nothing false comes up. -/
theorem next (hcandid : dialogs.Candid) {m m' : Moment} (h : m.Honest dialogs old)
    (hm : m.next? = some m') : m'.Honest dialogs old := by
  obtain ⟨hstack, hphase, hsuspended⟩ := id h
  cases step_of_next? hm with
  | missing hf => exact ⟨hstack, trivial, hsuspended⟩
  | unregistered hf hd =>
    exact ⟨hstack, failsTruly_error (isTrue_of_find_eq_error hd), hsuspended⟩
  | @enter st id task K frame d hf hd =>
    obtain ⟨t, rfl⟩ : ∃ t : Task, task = t.on := hphase
    have hfound : dialogs.find frame.dialog = .ok d := hstack.dialogs_eq ▸ hd
    exact ⟨⟨hstack.dialogs_eq, hstack.log⟩, hcandid.honest_task hfound t frame.session, hsuspended⟩
  | finish id taken o session =>
    cases o with
    | ok status => exact ⟨⟨hstack.dialogs_eq, hstack.log⟩, trivial, hsuspended⟩
    | error e =>
      have htrue : e.IsTrue dialogs := hphase e rfl
      exact ⟨⟨hstack.dialogs_eq, hstack.log⟩, failsTruly_error htrue, hsuspended⟩
  | ask id taken r next => exact asked h
  | stop hp => exact ⟨hstack, failsTruly_ok _, hsuspended⟩
  | resume hp htop => exact ⟨⟨hstack.dialogs_eq, hstack.log⟩, ⟨.resume _, rfl⟩, hsuspended⟩
  | @discard st id status K input hp htop =>
    have hundeferred : (st.undefer id).Honest dialogs old := ⟨hstack.dialogs_eq, hstack.log⟩
    exact ⟨hundeferred.note (.resultDropped id) nofun, failsTruly_ok _, hsuspended⟩
  | answer =>
    obtain ⟨hwaiting, hsuspended⟩ := List.forall_mem_cons.1 hsuspended
    exact ⟨hstack, hwaiting _ hphase, hsuspended⟩

theorem opening {c : Stack.Call} {st : Stack} {m : Moment} (hstack : st.Honest dialogs old)
    (h : c.opening? st = some m) : m.Honest dialogs old := by
  have hnobody : ∀ s ∈ ([] : List Suspended), s.Honest dialogs := nofun
  cases c with
  | start dialog options | begin dialog options =>
    obtain rfl := Option.some.inj h
    obtain ⟨hopened, hphase⟩ := hstack.beginning dialog options
    exact ⟨hopened, hphase, hnobody⟩
  | replace dialog options =>
    obtain rfl := Option.some.inj h
    obtain ⟨hopened, hphase⟩ := hstack.replacing dialog options
    exact ⟨hopened, hphase, hnobody⟩
  | finish result =>
    obtain rfl := Option.some.inj h
    obtain ⟨hopened, hphase⟩ := hstack.finishing result
    exact ⟨hopened, hphase, hnobody⟩
  | continueTurn activity =>
    obtain ⟨frame, -, rfl⟩ := Option.map_eq_some_iff.1 h
    exact ⟨hstack, ⟨.continueWith activity, rfl⟩, hnobody⟩
  | cancelAll | send => cases h

end Moment.Honest

/-! ### Calls -/

/-- **What a call reports is true**, if the dialogs of the stack are candid: a thread that it does
not find is not there, and an action that it does not recognize is no thread. -/
theorem Stack.reports_are_true {st st' : Stack} {c : Call}
    {outcome : Except DialogError (Option TurnStatus)} (hcandid : st.dialogs.Candid)
    (h : Returns c st outcome st') :
    FailsTruly st.dialogs outcome ∧
      ∀ event ∈ st'.log, event ∈ st.log ∨ event.IsTrue st.dialogs := by
  have hstack : st.Honest st.dialogs st.log := ⟨rfl, fun _ h => .inl h⟩
  cases hopening : c.opening? st with
  | some m =>
    obtain ⟨o, hends, rfl⟩ := (returns_iff_ends hopening).1 h
    have harrived : (Moment.arrived [] (o, st')).Honest st.dialogs st.log :=
      hends.1.invariant (I := Moment.Honest st.dialogs st.log)
        (Moment.Honest.opening hstack hopening) fun _ _ hm => hm.next hcandid
    have ho : FailsTruly st.dialogs o := harrived.phase
    refine ⟨?_, harrived.stack.log⟩
    cases o with
    | ok status => cases c <;> exact failsTruly_ok _
    | error e => cases c <;> exact failsTruly_error (ho e rfl)
  | none =>
    rcases (returns_of_opening?_eq_none hopening).1 h with
      ⟨_, -, rfl, rfl⟩ | ⟨-, rfl, rfl⟩ | ⟨_, -, rfl, rfl⟩
    · exact ⟨failsTruly_ok _, hstack.log⟩
    · exact ⟨failsTruly_ok _, (hstack.note (.cancellingAll st.depth) nofun).log⟩
    · exact ⟨failsTruly_ok _, hstack.log⟩

/-! ### Threads of a definition -/

namespace DialogDefinition

variable {definition : DialogDefinition} {options : DialogOptions} {d : Dialog} {thread : String}
  {lines : List LineDefinition}

/-- A thread that is declared is there if it has lines. -/
theorem hasThread_iff (hload : definition.toDialog options = .ok d)
    (hsorted : definition.threads.Sorted) (hthread : definition.threads.get? thread = some lines) :
    d.hasThread thread = true ↔ lines ≠ [] := by
  obtain ⟨threads, hthreads, rfl⟩ := exists_of_toDialog_eq_ok hload
  show (Keyed.get? threads thread).isSome = true ↔ _
  rw [Option.isSome_iff_exists]
  simp only [get?_threadsOf hthreads hsorted]
  constructor
  · rintro ⟨_, _, hfound, hne, -⟩
    obtain rfl := Option.some.inj (hthread.symm.trans hfound)
    exact hne
  · intro hne
    have hacceptable := acceptable_of_threadsOf hthreads _ (Keyed.mem_of_get?_eq_some hthread)
    obtain ⟨images, himages⟩ := exists_forall₂_iff.2 fun l hl =>
      LineDefinition.exists_image_iff.2 (hacceptable l hl)
    exact ⟨images.flatten, lines, hthread, hne, linesFrom_eq_ok_iff.2 ⟨images, himages, rfl⟩⟩

theorem dispatch_thread (hhas : d.hasThread thread = true ↔ lines ≠ []) (cursor : Location) :
    d.dispatch cursor (.thread thread) = do
      Dialog.note (.dispatchingAction d.id thread)
      if lines = [] then
        Dialog.note (.actionUnrecognized d.id thread)
        return none
      else return some (.jump ⟨thread, 0⟩) := by
  unfold Dialog.dispatch
  refine congrArg _ (funext fun _ => ?_)
  by_cases hlines : lines = []
  · have hmissing : ¬ d.hasThread thread = true := fun h => hhas.1 h hlines
    simp only [hlines, hmissing]
    rfl
  · simp only [hlines, hhas.2 hlines]
    rfl

open Stack in
/-- **A thread that is declared is there just if it has lines.**  Then an action that names it goes
there, and on stacks of candid dialogs no call fails because it is not found, and none notes that it
is not recognized.  If it has no lines an action that names it is passed over, and a dialog that is
launched on it fails because it is not found. -/
theorem thread_is_there_iff {source : String} (hread : read source = .ok definition)
    (hload : definition.toDialog options = .ok d)
    (hthread : definition.threads.get? thread = some lines) :
    (d.hasThread thread = true ↔ lines ≠ []) ∧
    (∀ cursor, d.dispatch cursor (.thread thread) = do
      Dialog.note (.dispatchingAction d.id thread)
      if lines = [] then
        Dialog.note (.actionUnrecognized d.id thread)
        return none
      else return some (.jump ⟨thread, 0⟩)) ∧
    (∀ st : Stack, st.dialogs.find d.id = .ok d → st.dialogs.Candid → lines ≠ [] →
      ∀ c outcome st', Returns c st outcome st' →
        (∀ index, outcome ≠ .error (.threadNotFound d.id ⟨thread, index⟩)) ∧
          (.actionUnrecognized d.id thread ∈ st'.log → .actionUnrecognized d.id thread ∈ st.log)) ∧
    ∀ st : Stack, st.dialogs.find d.id = .ok d → st.Orderly → lines = [] → options.maxSteps ≠ 0 →
      ∀ (launch : Launch) (launched : LaunchOptions), launched.startThread = thread →
        ∃ left, ∀ outcome st', Returns (launch.call d.id launched) st outcome st' ↔
          outcome = .error (.threadNotFound d.id ⟨thread, 0⟩) ∧ st' = left := by
  have hhas := hasThread_iff hload (sorted_of_read hread) hthread
  refine ⟨hhas, dispatch_thread hhas, fun st hd hcandid hlines c outcome st' hreturns => ?_,
    fun st hd horderly hlines hsteps launch launched hstart => ?_⟩
  · have hthere : ¬ st.dialogs.Lacks d.id thread := by
      intro hlacks
      have hnone := hlacks d hd
      rw [hhas.2 hlines] at hnone
      cases hnone
    obtain ⟨houtcome, hlog⟩ := reports_are_true hcandid hreturns
    refine ⟨fun index herror => ?_, fun hnoted => ?_⟩
    · exact hthere (houtcome _ herror d.id ⟨thread, index⟩ rfl)
    · exact (hlog _ hnoted).resolve_right fun htrue => hthere (htrue d.id thread rfl)
  · have hmissing : d.script.thread? launched.startThread = none := by
      rw [hstart, ← Option.isNone_iff_eq_none, ← Option.isSome_eq_false_iff]
      exact Bool.eq_false_iff.2 fun h => hhas.1 h hlines
    have hoptions : d.options = options := by
      obtain ⟨_, -, rfl⟩ := exists_of_toDialog_eq_ok hload
      rfl
    obtain ⟨left, -, hcall⟩ := exists_call_eq_error horderly launch hd hmissing
    rw [Dialog.lost, hoptions, if_neg hsteps, hstart] at hcall
    exact ⟨left, fun outcome st' => returns_iff_of_call_eq hcall⟩

/-! ### A shop -/

/-- A line that says something. -/
def saying (text : String) : LineDefinition := { text := some (.one text) }

/-- A shop with a cellar in which something is said, and an attic in which nothing is. -/
def shop : DialogDefinition where
  id := "shop"
  threads := [("attic", []), ("cellar", [saying "Dark."]), ("default", [saying "Hi."])]

/-- How a line is written that says something. -/
def sayingValue (text : String) : Json := .object [("text", .string text)]

/-- The script of the shop. -/
def shopScript : Json := .object [("id", .string "shop"), ("threads", .object [
  ("attic", .array []), ("cellar", .array [sayingValue "Dark."]),
  ("default", .array [sayingValue "Hi."])])]

theorem read_shopScript : read shopScript.render = .ok shop := by
  have hintegral : shopScript.Integral := by
    simp [shopScript, sayingValue, Json.Integral, Json.IntegralMembers, Json.IntegralItems]
  exact read_render hintegral rfl

/-- The dialog of the shop. -/
def shopDialog : Dialog where
  id := "shop"
  script := ⟨[("cellar", [.message (saying "Dark.").message none]),
    ("default", [.message (saying "Hi.").message none])]⟩

theorem toDialog_shop : shop.toDialog {} = .ok shopDialog := rfl

/-- An empty stack on which the shop is registered. -/
def shopStack : Stack := Stack.empty [("shop", shopDialog)] fun _ => 0

theorem find_shop : shopStack.dialogs.find shopDialog.id = .ok shopDialog := rfl

theorem candid_shopStack : shopStack.dialogs.Candid := by
  have hloaded : shopDialog.Loaded := by
    refine ⟨shopScript.render, {}, ?_⟩
    rw [Dialog.load, read_shopScript]
    exact toDialog_shop
  have honly (id : String) (d : Dialog) (hd : shopStack.dialogs.find id = .ok d) :
      id = "shop" ∧ d = shopDialog := by
    have hmem := Keyed.mem_of_get?_eq_some (DialogSet.find_eq_ok_iff.1 hd)
    obtain ⟨rfl, rfl⟩ := Prod.mk.inj (List.mem_singleton.1 hmem)
    exact ⟨rfl, rfl⟩
  constructor
  · intro id d hd
    obtain ⟨rfl, rfl⟩ := honly id d hd
    rfl
  · intro id d hd
    obtain ⟨-, rfl⟩ := honly id d hd
    exact hloaded.candid

/-- The call that goes to the cellar. -/
def toCellar : Stack.Call := .start "shop" { thread := some "cellar" }

/-- The stack behind a visit to the cellar. -/
def cellarStack : Stack := shopStack.behind 3 toCellar

open Stack in
/-- In the cellar there is something to be heard. -/
theorem thread_is_there_iff_shop :
    read shopScript.render = .ok shop ∧ shop.toDialog {} = .ok shopDialog ∧
      (shop.threads.get? "cellar" = some [saying "Dark."] ∧
        shopDialog.hasThread "cellar" = true) ∧
      (shop.threads.get? "attic" = some [] ∧ shopDialog.hasThread "attic" = false) ∧
      shopStack.dialogs.find shopDialog.id = .ok shopDialog ∧ shopStack.dialogs.Candid ∧
      (Returns toCellar shopStack (.ok (some .complete)) cellarStack ∧
        .actionUnrecognized "shop" "cellar" ∉ cellarStack.log) ∧
      shopStack.Orderly ∧
      ∃ left, Returns (.start "shop" { thread := some "attic" }) shopStack
        (.error (.threadNotFound "shop" ⟨"attic", 0⟩)) left := by
  have hcellar : shop.threads.get? "cellar" = some [saying "Dark."] := rfl
  have hattic : shop.threads.get? "attic" = some [] := rfl
  have hvisited : Returns toCellar shopStack (.ok (some .complete)) cellarStack ∧
      cellarStack.outline = [] := returns_behind (by decide +kernel)
  have hvisit := hvisited.1
  have hempty : shopStack.Reachable := .empty _ _
  have horderly := hempty.quiescent.toOrderly
  obtain ⟨hhas, -, htrue, -⟩ := thread_is_there_iff read_shopScript toDialog_shop hcellar
  obtain ⟨hhasnot, -, -, hfails⟩ := thread_is_there_iff read_shopScript toDialog_shop hattic
  obtain ⟨-, hlog⟩ := htrue shopStack find_shop candid_shopStack (List.cons_ne_nil _ _) _ _ _ hvisit
  obtain ⟨left, hleft⟩ := hfails shopStack find_shop horderly rfl (by decide) .start
    { thread := some "attic" } rfl
  exact ⟨read_shopScript, toDialog_shop, ⟨hcellar, hhas.2 (List.cons_ne_nil _ _)⟩,
    ⟨hattic, rfl⟩, find_shop, candid_shopStack,
    ⟨hvisit, fun h => absurd (hlog h) (Array.not_mem_empty _)⟩, horderly, left,
    (hleft _ _).2 ⟨rfl, rfl⟩⟩

/-- **A thread that is declared without lines is missing**: a dialog that is loaded does not have
it, and fails where it is to start on it. -/
theorem declared_thread_is_missing :
    ¬ ∀ (source : String) (definition : DialogDefinition) (options : DialogOptions) (d : Dialog)
      (thread : String) (lines : List LineDefinition), read source = .ok definition →
        definition.toDialog options = .ok d → definition.threads.get? thread = some lines →
          d.hasThread thread = true := by
  intro h
  have hhas := h _ _ _ _ "attic" _ read_shopScript toDialog_shop rfl
  exact absurd hhas (by decide +kernel)

end DialogDefinition

end Parley

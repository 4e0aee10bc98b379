import Parley.Proofs.Seeds
import Parley.Proofs.Store.Stored

/-!
# Conversations through files

A conversation may be held by one stack in memory, or by commands that each restore a stack from a
file, take one turn and store the stack again.  Seen from outside, a turn is an `Exchange`: the call
that was made, the numbers that random choice started from, what was reported, and the stack that
was stored.  `Stack.Converses` says which exchanges a stack in memory makes, and `Filed` which ones
the commands make as long as the scripts stay as they are.

Exchanges that commands have made are made in memory too, and no other ones are made in memory by
the same calls (`Filed.converses_in_memory`).
-/

namespace Parley

open Command (Success)

variable {σ α : Type}

/-- A turn of a conversation, seen from outside.  What is logged is not seen: a log tells sessions
by numbers, and sessions that are restored are numbered afresh. -/
structure Exchange where
  call : Stack.Call
  /-- The numbers that random choice started from in the dialogs that were begun. -/
  seeds : List UInt32
  report : Report
  stored : Snapshot

/-- The numbers that random choice starts from in a conversation. -/
def seedsOf (xs : List Exchange) : List UInt32 := xs.flatMap Exchange.seeds

/-- A clock gives the numbers that random choice starts from in a conversation. -/
def GivesSeeds (clock : ℕ → UInt32) (xs : List Exchange) : Prop :=
  ∀ (i : ℕ) (seed : UInt32), (seedsOf xs)[i]? = some seed → clock i = seed

/-! ### In memory -/

namespace Stack

/-- What a call comes to that has returned with a status.  Of the results those are reported that
the call has added. -/
def exchange (key : String) (c : Call) (status : Option TurnStatus) (st st' : Stack) :
    Exchange where
  call := c
  seeds := (List.range (st'.ticks - st.ticks)).map fun k => st.clock (st.ticks + k)
  report := {
    status := status.getD st'.status
    messages := st'.drain.1
    completed := (st'.results.toList.drop st.results.size).map (·.result.values)
    key := key }
  stored := st'.snapshot

/-- The exchanges that a stack makes when one call after the other returns without an error, and the
messages are taken out after each. -/
inductive Converses (key : String) (st : Stack) : List Exchange → Stack → Prop where
  | nil : Converses key st [] st
  | snoc {xs : List Exchange} {st₁ st₂ : Stack} {c : Call} {status : Option TurnStatus}
      (h : Converses key st xs st₁) (hc : Returns c st₁ (.ok status) st₂) :
      Converses key st (xs ++ [st₁.exchange key c status st₂]) st₂.drain.2

end Stack

/-! ### Through files -/

/-- The call that a command makes. -/
def Command.turn : Command → Stack.Call
  | .start c => .start c.entryDialog { thread := c.thread, channel := some c.address.channel }
  | .say c => .continueTurn (c.address.message c.text)

/-- What a command comes to that has succeeded. -/
def Command.Success.exchange {disk : Disk (StateM σ)} {c : Command} {s s' : σ}
    (t : Success disk c s s') : Exchange where
  call := c.turn
  seeds := (List.range t.stack.ticks).map t.clock
  report := t.report
  stored := t.record.stack

/-- The exchanges of commands for an address, the first of which has started a conversation and the
others have gone on with it, while the scripts define the same dialogs all the time. -/
inductive Filed (disk : Disk (StateM σ)) (a : Address) (library : Library) :
    List Exchange → σ → Prop where
  | start {c : StartCommand} {s s' : σ} (ha : c.address = a)
      (hlibrary : Gives (Library.load disk c.scriptsDirectory) s library s)
      (t : Success disk (.start c) s s') : Filed disk a library [t.exchange] s'
  | say {c : SayCommand} {xs : List Exchange} {s s' : σ} (h : Filed disk a library xs s)
      (ha : c.address = a) (hlibrary : Gives (Library.load disk library.directory) s library s)
      (t : Success disk (.say c) s s') : Filed disk a library (xs ++ [t.exchange]) s'
  /-- Something else has happened to the disk, but not to the state file. -/
  | otherwise {xs : List Exchange} {s s' : σ} (h : Filed disk a library xs s)
      (hkind : ∀ path, a.file = .ok path →
        ((disk.kind? path).run s').1 = ((disk.kind? path).run s).1)
      (hread : ∀ path, a.file = .ok path →
        ((disk.read path).run s').1 = ((disk.read path).run s).1) :
      Filed disk a library xs s'

/-! ### One turn -/

namespace Stack

/-- Nothing has come of a stack yet. -/
structure Fresh (st : Stack) : Prop where
  outbox : st.outbox = #[]
  results : st.results = #[]
  ticks : st.ticks = 0

theorem fresh_empty (dialogs : DialogSet) (clock : ℕ → UInt32) :
    (Stack.empty dialogs clock).Fresh := ⟨rfl, rfl, rfl⟩

theorem fresh_of_ofSnapshot {dialogs : DialogSet} {clock : ℕ → UInt32} {s : Snapshot} {st : Stack}
    (h : ofSnapshot dialogs clock s = .ok st) : st.Fresh ∧ st.clock = clock := by
  obtain ⟨-, fs, n, rfl⟩ := of_ofSnapshot h
  exact ⟨⟨rfl, rfl, rfl⟩, rfl⟩

variable {st st' st₁ : Stack} {c : Call} {status : Option TurnStatus}

theorem status_eq (st : Stack) :
    st.status = if st.snapshot.frames.isEmpty then .complete else .waiting := by
  simp [status, snapshot]

/-- **A turn from what has been stored is a turn in memory.** -/
theorem Fresh.exists_exchange_eq (hfresh : st.Fresh) (h : Resembles st st')
    (houtbox : st'.outbox = #[]) (hc : Returns c st (.ok status) st₁)
    (hclock : ∀ k, k < st₁.ticks → st'.clock (st'.ticks + k) = st.clock k) (key : String) :
    ∃ st₁', Returns c st' (.ok status) st₁' ∧ Resembles st₁ st₁' ∧
      st₁'.ticks = st'.ticks + st₁.ticks ∧
      st'.exchange key c status st₁' = st.exchange key c status st₁ := by
  have hclock' : ∀ k, st.ticks + k < st₁.ticks →
      st'.clock (st'.ticks + k) = st.clock (st.ticks + k) := by
    intro k hk
    rw [hfresh.ticks, Nat.zero_add] at hk ⊢
    exact hclock k hk
  obtain ⟨st₁', hc', hgain, hafter, hticks⟩ := h.returns hc hclock'
  obtain ⟨messages, hsent, hsent'⟩ := hgain.sent
  obtain ⟨results, hrecorded, hrecorded'⟩ := hgain.recorded
  have hstatus : st₁'.status = st₁.status := by
    rw [status_eq, status_eq, hafter.snapshot]
  have hseeds : ((List.range (st₁'.ticks - st'.ticks)).map fun k => st'.clock (st'.ticks + k)) =
      (List.range (st₁.ticks - st.ticks)).map fun k => st.clock (st.ticks + k) := by
    rw [hticks]
    refine List.map_congr_left fun k hk => hclock' k ?_
    have hlt := List.mem_range.1 hk
    omega
  have hmessages : st₁'.drain.1 = st₁.drain.1 := by
    rw [drain, drain, hsent, hsent', hfresh.outbox, houtbox]
  have hcompleted : st₁'.results.toList.drop st'.results.size =
      st₁.results.toList.drop st.results.size := by
    rw [hrecorded, hrecorded']
    simp
  refine ⟨st₁', hc', hafter, ?_, ?_⟩
  · have hle := hc'.ticks.le
    rw [hfresh.ticks] at hticks
    omega
  · rw [exchange, exchange, hseeds, hstatus, hmessages, hcompleted, ← hafter.snapshot]

theorem Resembles.drain (h : Resembles st st') : Resembles st st'.drain.2 :=
  ⟨h.quiescent, ⟨h.quiescent'.toOrderly.congr rfl rfl rfl, h.quiescent'.executing,
    h.quiescent'.pending⟩, h.dialogs, h.snapshot⟩

theorem Returns.unique {o o' : Except DialogError (Option TurnStatus)} (h : Returns c st o st₁)
    (h' : Returns c st o' st') : o = o' ∧ st₁ = st' := by
  cases hm : c.opening? st with
  | some m =>
    obtain ⟨x, hends, rfl⟩ := (returns_iff_ends hm).1 h
    obtain ⟨x', hends', rfl⟩ := (returns_iff_ends hm).1 h'
    obtain ⟨rfl, rfl⟩ := Prod.mk.inj (Moment.arrived_injective [] (hends.unique hends'))
    exact ⟨rfl, rfl⟩
  | none =>
    rcases (returns_of_opening?_eq_none hm).1 h with
      ⟨a, rfl, rfl, rfl⟩ | ⟨rfl, rfl, rfl⟩ | ⟨m, rfl, rfl, rfl⟩ <;>
    rcases (returns_of_opening?_eq_none hm).1 h' with
      ⟨a', hc, rfl, rfl⟩ | ⟨hc, rfl, rfl⟩ | ⟨m', hc, rfl, rfl⟩ <;> cases hc <;> exact ⟨rfl, rfl⟩

theorem Converses.unique {key : String} {xs ys : List Exchange} {st₁ st₁' : Stack}
    (h : st.Converses key xs st₁) (h' : st.Converses key ys st₁')
    (hcalls : xs.map Exchange.call = ys.map Exchange.call) : xs = ys ∧ st₁ = st₁' := by
  induction h generalizing ys st₁' with
  | nil =>
    cases h' with
    | nil => exact ⟨rfl, rfl⟩
    | snoc => simp at hcalls
  | snoc _ hc ih =>
    cases h' with
    | nil => simp at hcalls
    | snoc h' hc' =>
      rw [List.map_append, List.map_append] at hcalls
      obtain ⟨hbefore, hlast⟩ := List.append_inj' hcalls rfl
      obtain ⟨rfl, rfl⟩ := ih h' hbefore
      obtain rfl := (List.cons.inj hlast).1
      obtain ⟨hstatus, rfl⟩ := hc.unique hc'
      cases hstatus
      exact ⟨rfl, rfl⟩

end Stack

/-! ### Seeds -/

theorem seedsOf_append (xs ys : List Exchange) : seedsOf (xs ++ ys) = seedsOf xs ++ seedsOf ys :=
  List.flatMap_append

theorem GivesSeeds.of_append {clock : ℕ → UInt32} {xs ys : List Exchange}
    (h : GivesSeeds clock (xs ++ ys)) : GivesSeeds clock xs := by
  intro i seed hi
  refine h i seed ?_
  rw [seedsOf_append, List.getElem?_append_left (List.getElem?_eq_some_iff.1 hi).1, hi]

theorem GivesSeeds.last {clock : ℕ → UInt32} {xs : List Exchange} {x : Exchange}
    (h : GivesSeeds clock (xs ++ [x])) {k : ℕ} {seed : UInt32} (hk : x.seeds[k]? = some seed) :
    clock ((seedsOf xs).length + k) = seed := by
  refine h _ seed ?_
  have hlast : seedsOf [x] = x.seeds := List.flatMap_singleton ..
  rw [seedsOf_append, List.getElem?_append_right (Nat.le_add_right _ _), Nat.add_sub_cancel_left,
    hlast, hk]

/-- A clock that has stopped gives the same number all the time. -/
theorem givesSeeds_const {seed : UInt32} {xs : List Exchange}
    (h : ∀ x ∈ xs, ∀ given ∈ x.seeds, given = seed) : GivesSeeds (fun _ => seed) xs := by
  intro i given hi
  obtain ⟨x, hx, hgiven⟩ := List.mem_flatMap.1 (List.mem_of_getElem? hi)
  exact (h x hx given hgiven).symm

/-! ### Keeping abreast -/

/-- A stack in memory has made the exchanges, and holds the sessions of a snapshot. -/
structure Abreast (dialogs : DialogSet) (clock : ℕ → UInt32) (key : String) (xs : List Exchange)
    (stored : Snapshot) (st : Stack) : Prop where
  converses : (Stack.empty dialogs clock).Converses key xs st
  quiescent : st.Quiescent
  dialogs : st.dialogs = dialogs
  clock : st.clock = clock
  snapshot : st.snapshot = stored
  outbox : st.outbox = #[]
  ticks : st.ticks = (seedsOf xs).length

theorem abreast_empty (dialogs : DialogSet) (clock : ℕ → UInt32) (key : String) :
    Abreast dialogs clock key [] ⟨[]⟩ (Stack.empty dialogs clock) :=
  ⟨.nil, Stack.quiescent_empty dialogs clock, rfl, rfl, rfl, rfl, rfl⟩

namespace Command.Success

variable {disk : Disk (StateM σ)} {c : Command} {s s' : σ}

/-- A command has prepared a stack with nothing on it but what has been stored. -/
structure Restores (t : Success disk c s s') (dialogs : DialogSet) (key : String)
    (stored : Snapshot) : Prop where
  quiescent : t.prepared.stack.Quiescent
  fresh : t.prepared.stack.Fresh
  clock : t.prepared.stack.clock = t.clock
  dialogs : t.prepared.stack.dialogs = dialogs
  snapshot : t.prepared.stack.snapshot = stored
  call : t.prepared.call = c.turn
  key : t.prepared.key = key

theorem exchange_eq {t : Success disk c s s'} {dialogs : DialogSet} {key : String}
    {stored : Snapshot} (h : t.Restores dialogs key stored) :
    t.exchange = t.prepared.stack.exchange key t.prepared.call t.status t.stack := by
  rw [exchange, Stack.exchange, h.call, h.clock, h.fresh.ticks, h.fresh.results]
  simp [report, record, Prepared.report, Prepared.record, Stack.drain, h.key]

end Command.Success

/-- **A stack in memory keeps abreast of a command.** -/
theorem Abreast.turn {dialogs : DialogSet} {clock : ℕ → UInt32} {key : String}
    {xs : List Exchange} {stored : Snapshot} {st : Stack}
    (h : Abreast dialogs clock key xs stored st) {disk : Disk (StateM σ)} {c : Command} {s s' : σ}
    (t : Success disk c s s') (ht : t.Restores dialogs key stored)
    (hclock : GivesSeeds clock (xs ++ [t.exchange])) :
    ∃ st', Abreast dialogs clock key (xs ++ [t.exchange]) t.record.stack st' := by
  have hresembles : Stack.Resembles t.prepared.stack st :=
    ⟨ht.quiescent, h.quiescent, ht.dialogs.trans h.dialogs.symm, ht.snapshot.trans h.snapshot.symm⟩
  have hreturns : Stack.Returns t.prepared.call t.prepared.stack (.ok t.status) t.stack :=
    ⟨t.rounds, t.call⟩
  have hdialogs := hreturns.dialogs_eq
  have hseeds (k : ℕ) (hk : k < t.stack.ticks) : t.exchange.seeds[k]? = some (t.clock k) := by
    rw [Command.Success.exchange, List.getElem?_map, List.getElem?_range hk, Option.map_some]
  obtain ⟨st₁, hc, hafter, hticks, hexchange⟩ :=
    ht.fresh.exists_exchange_eq hresembles h.outbox hreturns (fun k hk => by
      rw [h.clock, h.ticks, ht.clock]
      exact hclock.last (hseeds k hk)) key
  have hsame := hexchange.trans (Command.Success.exchange_eq ht).symm
  refine ⟨st₁.drain.2, hsame ▸ h.converses.snoc hc, hafter.drain.quiescent', ?_, ?_,
    hafter.drain.snapshot.symm, rfl, ?_⟩
  · exact hafter.drain.dialogs.symm.trans (hdialogs.trans ht.dialogs)
  · exact hc.ticks.clock.trans h.clock
  · have hlength : (seedsOf [t.exchange]).length = t.stack.ticks := by
      simp [seedsOf, Command.Success.exchange]
    rw [seedsOf_append, List.length_append, hlength, ← h.ticks]
    exact hticks

namespace Filed

variable {disk : Disk (StateM σ)} {a : Address} {library : Library} {xs : List Exchange} {s : σ}

/-- What the file of a conversation holds, and a stack in memory that keeps abreast of it. -/
structure Keeps (disk : Disk (StateM σ)) (a : Address) (library : Library) (xs : List Exchange)
    (s : σ) (key path : String) (r : Record) : Prop where
  keyed : a.storageKey = .ok key
  place : StateFile.path a.stateDirectory key = .ok path
  directory : r.scriptsDirectory = library.directory
  sound : r.Sound library.dialogs
  holds : disk.Holds path r s
  abreast : ∀ clock, GivesSeeds clock xs →
    ∃ st, Abreast library.dialogs clock key xs r.stack st

theorem eq_of_gives {x : ExceptT DialogError (StateM σ) α} {b b' : α} {s₁ s₂ : σ}
    (h : Gives x s b s₁) (h' : Gives x s b' s₂) : b = b' :=
  Except.ok.inj (Prod.mk.inj (h.symm.trans h')).1

theorem keeps_start (hdisk : disk.Lawful)
    (haddressable : ∀ id d, library.dialogs.find id = .ok d → d.Addressable) {c : StartCommand}
    {s s' : σ} (ha : c.address = a)
    (hlibrary : Gives (Library.load disk c.scriptsDirectory) s library s)
    (t : Success disk (.start c) s s') :
    ∃ key, Keeps disk a library [t.exchange] s' key t.path t.record := by
  subst ha
  obtain ⟨library', key, hlibrary', hkey, hprepared⟩ := t.started hdisk
  obtain rfl := eq_of_gives hlibrary hlibrary'
  have hstack : t.prepared.stack = Stack.empty library.dialogs t.clock := by rw [hprepared]
  have hdialogs : t.prepared.stack.dialogs = library.dialogs := by rw [hstack]; rfl
  have hrestores : t.Restores library.dialogs key ⟨[]⟩ := by
    refine ⟨?_, ?_, ?_, hdialogs, ?_, ?_, ?_⟩
    · rw [hstack]
      exact Stack.quiescent_empty _ _
    · rw [hstack]
      exact Stack.fresh_empty _ _
    · rw [hstack]
      rfl
    · rw [hstack]
      rfl
    · rw [hprepared]
      rfl
    · rw [hprepared]
  have hplace := t.place
  rw [hprepared] at hplace
  refine ⟨key, hkey, hplace, ?_, ?_, t.holds hdisk, fun clock hclock => ?_⟩
  · rw [Command.Success.record, hprepared]
    rfl
  · exact hdialogs ▸ t.sound_start hdisk fun id d hd => haddressable id d (hdialogs ▸ hd)
  · exact (abreast_empty library.dialogs clock key).turn t hrestores hclock

theorem Keeps.say (hdisk : disk.Lawful)
    (haddressable : ∀ id d, library.dialogs.find id = .ok d → d.Addressable) {key path : String}
    {r : Record} (h : Keeps disk a library xs s key path r) {c : SayCommand} {s' : σ}
    (ha : c.address = a) (hlibrary : Gives (Library.load disk library.directory) s library s)
    (t : Success disk (.say c) s s') :
    Keeps disk a library (xs ++ [t.exchange]) s' key path t.record := by
  subst ha
  obtain ⟨key', r', library', stack, hkey, hload, hlibrary', hrestored, hprepared⟩ :=
    t.restored hdisk
  obtain rfl := Except.ok.inj (h.keyed.symm.trans hkey)
  have hplace := t.place
  rw [hprepared] at hplace
  obtain rfl := Except.ok.inj (h.place.symm.trans hplace)
  obtain rfl : r' = r := h.holds.eq_of_gives h.sound hload
  rw [h.directory] at hlibrary'
  obtain rfl := eq_of_gives hlibrary hlibrary'
  obtain ⟨hsnapshot, fs, n, hst⟩ := Stack.of_ofSnapshot hrestored
  obtain ⟨hfresh, hclock⟩ := Stack.fresh_of_ofSnapshot hrestored
  have hstack : t.prepared.stack = stack := by rw [hprepared]
  have hdialogs : t.prepared.stack.dialogs = library.dialogs := by rw [hstack, hst]; rfl
  have hrestores : t.Restores library.dialogs key r'.stack := by
    refine ⟨?_, hstack ▸ hfresh, hstack ▸ hclock, hdialogs, hstack ▸ hsnapshot, ?_, ?_⟩
    · rw [hstack]
      exact (Stack.quiescent_empty _ _).restoreFrames hrestored
    · rw [hprepared]
      rfl
    · rw [hprepared]
  refine ⟨hkey, h.place, ?_, ?_, t.holds hdisk, fun clock hseeds => ?_⟩
  · rw [Command.Success.record, hprepared]
    exact h.directory
  · have haddressable' : t.prepared.stack.Addressable := fun id d hd =>
      haddressable id d (hdialogs ▸ hd)
    exact hdialogs ▸ t.sound_say hdisk haddressable' h.holds h.sound
  · obtain ⟨st, hst⟩ := h.abreast clock hseeds.of_append
    exact hst.turn t hrestores hseeds

theorem exists_keeps (hdisk : disk.Lawful)
    (haddressable : ∀ id d, library.dialogs.find id = .ok d → d.Addressable)
    (h : Filed disk a library xs s) : ∃ key path r, Keeps disk a library xs s key path r := by
  induction h with
  | start ha hlibrary t =>
    obtain ⟨key, hkeeps⟩ := keeps_start hdisk haddressable ha hlibrary t
    exact ⟨key, t.path, t.record, hkeeps⟩
  | say _ ha hlibrary t ih =>
    obtain ⟨key, path, r, hkeeps⟩ := ih
    exact ⟨key, path, t.record, hkeeps.say hdisk haddressable ha hlibrary t⟩
  | otherwise _ hkind hread ih =>
    obtain ⟨key, path, r, hkeeps⟩ := ih
    have hfile : a.file = .ok path := by
      rw [Address.file, hkeeps.keyed]
      exact hkeeps.place
    exact ⟨key, path, r, hkeeps.keyed, hkeeps.place, hkeeps.directory, hkeeps.sound,
      hkeeps.holds.congr hdisk (hkind path hfile) (hread path hfile), hkeeps.abreast⟩

end Filed

namespace Ladder

/-- Climbing a ladder and answering the question. -/
theorem exists_filed {n : ℕ} (h : Readable n) (hn : 2 * n + 2 ≤ 1000) {rounds rounds' : ℕ}
    {status status' : Option TurnStatus} {st restored st' : Stack} {reply : String}
    (hcall : (Stack.empty (dialogs n) clock).call rounds climb = some (.ok status, st))
    (hdepth : (recordOf st).depth ≤ Decoder.depthLimit)
    (hrestored : Stack.ofSnapshot (dialogs n) clock st.snapshot = .ok restored)
    (hcall' : restored.call rounds' (.continueTurn (address.message reply)) =
      some (.ok status', st')) :
    ∃ xs v, Filed Volume.disk address ⟨"/scripts", dialogs n⟩ xs v ∧ GivesSeeds clock xs ∧
      xs.map Exchange.call = [climb, .continueTurn (address.message reply)] := by
  have hload := (stored_start h hn hcall).gives_load Volume.lawful_disk hdepth
  have hstart : Filed Volume.disk address ⟨"/scripts", dialogs n⟩ [(start h hcall).exchange]
      (volume n (stateTree (recordOf st).toJson.render)) :=
    .start (c := opening) rfl (gives_library h []) (start h hcall)
  have hsay := hstart.say rfl (gives_library h _) (say h hload hrestored hcall')
  refine ⟨_, _, hsay, givesSeeds_const fun x hx given hgiven => ?_, rfl⟩
  rcases List.mem_append.1 hx with hx | hx
  · rw [List.mem_singleton.1 hx] at hgiven
    obtain ⟨-, -, rfl⟩ := List.mem_map.1 hgiven
    rfl
  · rw [List.mem_singleton.1 hx] at hgiven
    obtain ⟨-, -, rfl⟩ := List.mem_map.1 hgiven
    rfl

end Ladder

namespace Filed

variable {disk : Disk (StateM σ)} {a : Address} {library : Library} {xs : List Exchange} {s : σ}

/-- **Exchanges through files are exchanges in memory**: a stack that gives the same numbers to
random choice makes the same exchanges, and no other ones by the same calls. -/
theorem converses_in_memory (hdisk : disk.Lawful)
    (haddressable : ∀ id d, library.dialogs.find id = .ok d → d.Addressable)
    (h : Filed disk a library xs s) {clock : ℕ → UInt32} (hclock : GivesSeeds clock xs) :
    ∃ key, a.storageKey = .ok key ∧
      (∃ st, (Stack.empty library.dialogs clock).Converses key xs st) ∧
        ∀ ys st, (Stack.empty library.dialogs clock).Converses key ys st →
          ys.map Exchange.call = xs.map Exchange.call → ys = xs := by
  obtain ⟨key, path, r, hkeeps⟩ := h.exists_keeps hdisk haddressable
  obtain ⟨st, hst⟩ := hkeeps.abreast clock hclock
  exact ⟨key, hkeeps.keyed, ⟨st, hst.converses⟩,
    fun ys st' hys hcalls => (hys.unique hst.converses hcalls).1⟩

theorem converses_in_memory_ladder : ∃ xs v, Volume.disk.Lawful ∧
    Filed Volume.disk Ladder.address ⟨"/scripts", Ladder.dialogs 1⟩ xs v ∧
      (∀ id d, (Ladder.dialogs 1).find id = .ok d → d.Addressable) ∧
        GivesSeeds Ladder.clock xs ∧
          xs.map Exchange.call = [Ladder.climb, .continueTurn (Ladder.address.message "Yes.")] ∧
            ∃ key, Ladder.address.storageKey = .ok key ∧
              (∃ st, (Stack.empty (Ladder.dialogs 1) Ladder.clock).Converses key xs st) ∧
                ∀ ys st, (Stack.empty (Ladder.dialogs 1) Ladder.clock).Converses key ys st →
                  ys.map Exchange.call = xs.map Exchange.call → ys = xs := by
  obtain ⟨hclimb, hheight⟩ := Ladder.call_climbed
  have haddressable := Ladder.addressable_dialogs Ladder.readable_one (by omega)
  obtain ⟨xs, v, hfiled, hclock, hcalls⟩ := Ladder.exists_filed Ladder.readable_one (by omega)
    hclimb (Ladder.depth_le hheight (by decide)) Ladder.ofSnapshot_climbed Ladder.call_answered.1
  exact ⟨xs, v, Volume.lawful_disk, hfiled, haddressable, hclock, hcalls,
    hfiled.converses_in_memory Volume.lawful_disk haddressable hclock⟩

end Filed

end Parley

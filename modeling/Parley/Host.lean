import Parley.Event
import Parley.Outgoing

/-!
# Hosts

A dialog runs on behalf of a host, which owns the stack of dialogs and the channel.  What a dialog
or one of its callbacks wants from its host is a `Request`, and a computation that makes requests is
a `HostM`: finished, or a request with what to do once it is answered, or aborted.  An aborted
computation comes to nothing: it has no value and no error, and no host can go on with it.

Computations know nothing of the host that runs them.  A host is a function that answers requests
from a state of its own, and `HostM.run` puts the two together.
-/

namespace Parley

/-- What a computation may ask of its host. -/
inductive Request where
  /-- Send a message to the channel. -/
  | send (message : OutgoingMessage)
  /-- Tell which dialog is active, the one on top of the stack. -/
  | active
  /-- Begin a dialog on top of the active one. -/
  | begin (dialog : String) (options : LaunchOptions)
  /-- Begin a dialog in place of the active one. -/
  | replace (dialog : String) (options : LaunchOptions)
  /-- End the active dialog. -/
  | finish (result : Option DialogResult)
  /-- Remove all dialogs. -/
  | cancelAll
  /-- Note an event. -/
  | note (event : Event)
  /-- Give a number to start random choice from. -/
  | seed
deriving Repr

namespace Request

/-- What a request is answered with. -/
def Answer : Request → Type
  | send _ => Except DialogError Unit
  | active => Option String
  | begin _ _ => Except DialogError TurnStatus
  | replace _ _ => Except DialogError TurnStatus
  | finish _ => Except DialogError TurnStatus
  | cancelAll => Except DialogError Unit
  | note _ => Unit
  | seed => UInt32

end Request

/-- A computation that makes requests. -/
inductive HostM (α : Type) where
  | done (value : α)
  | ask (request : Request) (next : request.Answer → HostM α)
  | abort

namespace HostM

variable {α β σ : Type}

/-- One computation after the other. -/
def bind : HostM α → (α → HostM β) → HostM β
  | done value, f => f value
  | ask request next, f => ask request fun answer => bind (next answer) f
  | abort, _ => abort

instance : Monad HostM where
  pure := done
  bind := bind

/-- Make a request. -/
def request (r : Request) : HostM r.Answer := ask r done

/-- Run a computation on a host: a function that answers requests and changes its state.  There is
no result when the host gives up on a request, and none when the computation is aborted. -/
def run (host : (r : Request) → σ → Option (r.Answer × σ)) : HostM α → σ → Option (α × σ)
  | done value, s => some (value, s)
  | ask request next, s => (host request s).bind fun (answer, s) => run host (next answer) s
  | abort, _ => none

@[simp] theorem run_pure (host : (r : Request) → σ → Option (r.Answer × σ)) (value : α) (s : σ) :
    run host (pure value) s = some (value, s) := rfl

theorem run_bind (host : (r : Request) → σ → Option (r.Answer × σ)) (x : HostM α)
    (f : α → HostM β) (s : σ) :
    run host (x >>= f) s = (run host x s).bind fun (a, s) => run host (f a) s := by
  induction x generalizing s with
  | done value => rfl
  | ask request next ih =>
    show (host request s).bind (fun (answer, s) => run host (bind (next answer) f) s) = _
    simp only [run]
    cases host request s with
    | none => rfl
    | some p => exact ih p.1 p.2
  | abort => rfl

end HostM

/-! ### Computations that may fail -/

/-- A computation that makes requests and may fail. -/
abbrev Attempt := ExceptT DialogError HostM

/-- A computation on a state that makes requests and may fail.  A failure keeps the state. -/
abbrev StatefulAttempt (σ : Type) := ExceptT DialogError (StateT σ HostM)

instance {σ : Type} : MonadLift Attempt (StatefulAttempt σ) where
  monadLift x := ExceptT.mk (StateT.lift x.run)

namespace Attempt

/-- Send a message. -/
def send (message : OutgoingMessage) : Attempt Unit := ExceptT.mk (HostM.request (.send message))

/-- The active dialog. -/
def active : Attempt (Option String) := ExceptT.lift (HostM.request .active)

/-- Begin a dialog. -/
def begin (dialog : String) (options : LaunchOptions) : Attempt TurnStatus :=
  ExceptT.mk (HostM.request (.begin dialog options))

/-- Replace the active dialog. -/
def replace (dialog : String) (options : LaunchOptions) : Attempt TurnStatus :=
  ExceptT.mk (HostM.request (.replace dialog options))

/-- End the active dialog. -/
def finish (result : Option DialogResult) : Attempt TurnStatus :=
  ExceptT.mk (HostM.request (.finish result))

/-- Remove all dialogs. -/
def cancelAll : Attempt Unit := ExceptT.mk (HostM.request .cancelAll)

/-- Note an event. -/
def note (event : Event) : Attempt Unit := ExceptT.lift (HostM.request (.note event))

/-- A number to start random choice from. -/
def seed : Attempt UInt32 := ExceptT.lift (HostM.request .seed)

/-- Come to nothing.  This is no failure: nobody learns of it. -/
def abort {α : Type} : Attempt α := ExceptT.mk HostM.abort

end Attempt

end Parley

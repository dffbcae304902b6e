import SearchTuning.Store

/-!
# Programs over the store

An operation is a program: calls to the store with computation between them, and announcements of
events.  Run from start to end it maps a session to a session; between its calls others may run.
-/

namespace SearchTuning

/-- The event that a try was created. -/
structure Event where
  caseId : Int
  tryNo : Int
  engine : Engine
  deriving DecidableEq, Repr

/-- A program with a result of type `α`. -/
inductive Program (α : Type) where
  | done (result : Except Error α)
  | call (c : Store.Call) (next : c.Answer → Program α)
  | announce (event : Event) (next : Program α)

/-- The store, and the events that have been announced but not handed on. -/
structure Session where
  store : Store
  pending : List Event
  deriving DecidableEq, Repr

namespace Session

/-- The session before any operation. -/
def start : Session := ⟨Store.empty, []⟩

end Session

namespace Program

variable {α β : Type}

/-- Runs a program, and goes on with its result. -/
def andThen : Program α → (α → Program β) → Program β
  | .done (.ok a), f => f a
  | .done (.error e), _ => .done (.error e)
  | .call c next, f => .call c fun answer => (next answer).andThen f
  | .announce event next, f => .announce event (next.andThen f)

instance : Monad Program where
  pure a := .done (.ok a)
  bind := andThen

/-- Fails with an error. -/
def fail (e : Error) : Program α := .done (.error e)

/-- The result of a computation. -/
def ofExcept (result : Except Error α) : Program α := .done result

/-- Makes one call. -/
def ask (c : Store.Call) : Program c.Answer := .call c fun answer => .done (.ok answer)

/-- Announces one event. -/
def tell (event : Event) : Program Unit := .announce event (.done (.ok ()))

/-- Runs a program from start to end. -/
def run [Platform] : Program α → Session → Except Error α × Session
  | .done result, session => (result, session)
  | .call c next, session =>
      let (answer, store) := session.store.answer c
      run (next answer) { session with store }
  | .announce event next, session =>
      run next { session with pending := session.pending ++ [event] }

end Program

/-- Where events are handed on.  It changes its state with each event, and may fail on it: then it
raises an exception of the common kind, not one by which a task is cancelled or the program
ended. -/
structure Sink (σ : Type) where
  receive : Event → σ → σ × Bool

/-- Hands on all events that are pending, in order.  Whether the sink fails on an event makes no
difference. -/
def Session.waitForEvents {σ : Type} (sink : Sink σ) (session : Session) (state : σ) : Session × σ :=
  ({ session with pending := [] },
    session.pending.foldl (fun state event => (sink.receive event state).1) state)

end SearchTuning

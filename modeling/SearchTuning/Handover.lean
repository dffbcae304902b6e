import SearchTuning.Command

/-!
# Handing events on

Operations announce events, and waiting hands them on to a sink.  The sink may fail on any of them;
it is given those that follow all the same, and its failures go no further.
-/

namespace SearchTuning

namespace Sink

/-- A failure of a sink. -/
structure Failure where
  event : Event
  deriving DecidableEq, Repr

variable {σ : Type} (sink : Sink σ)

/-- Gives an event to the sink. -/
def emit (event : Event) (state : σ) : Except Failure Unit × σ :=
  let (state, failed) := sink.receive event state
  (if failed then .error ⟨event⟩ else .ok (), state)

/-- Gives an event to the sink, and passes over its failure. -/
def handOn (event : Event) (state : σ) : Except Failure Unit × σ :=
  match sink.emit event state with
  | (.ok (), state) => (.ok (), state)
  | (.error _, state) => (.ok (), state)

/-- Hands on all events, in order.  Of failures the first one would be the result. -/
def handOnAll : List Event → σ → Except Failure Unit × σ
  | [], state => (.ok (), state)
  | event :: events, state =>
      let (first, state) := sink.handOn event state
      let (others, state) := handOnAll events state
      (first *> others, state)

end Sink

/-- An operation, or a wait until all events are handed on. -/
inductive Act where
  | operate (command : Command)
  | waitForEvents

/-- What an act comes to. -/
inductive Act.Outcome where
  | replied (result : Except Error Reply)
  | waited (result : Except Sink.Failure Unit)

/-- An act that is over: what it came to, and the session after it. -/
structure Moment where
  act : Act
  outcome : Act.Outcome
  session : Session

namespace Act

variable [Platform] {σ : Type} (config : Config) (sink : Sink σ)

/-- Performs an act, with a sink in some state. -/
def run : Act → Session → σ → Outcome × Session × σ
  | .operate command, session, state =>
      let (result, session) := command.run config session
      (.replied result, session, state)
  | .waitForEvents, session, state =>
      let (result, state) := sink.handOnAll session.pending state
      (.waited result, { session with pending := [] }, state)

/-- Performs acts one after the other. -/
def runAll : List Act → Session → σ → List Moment × Session × σ
  | [], session, state => ([], session, state)
  | act :: acts, session, state =>
      let (outcome, session, state) := act.run config sink session state
      let (moments, last, state) := runAll acts session state
      (⟨act, outcome, session⟩ :: moments, last, state)

end Act

end SearchTuning

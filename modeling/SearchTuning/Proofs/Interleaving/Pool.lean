import SearchTuning.Command
import SearchTuning.Proofs.Store.History

/-!
# Operations side by side

Operations that are under way at the same time share one session.  Each goes on by one call to the
store, with the computation up to its next call, and a schedule says which is the next to go on.
Nothing else is atomic: between any two calls of an operation all others may go on.
-/

namespace SearchTuning

open Store

/-- Operations that are under way. -/
structure Pool where
  session : Session
  /-- What is left of each operation. -/
  rest : List (Program Reply)
  /-- The calls that were made, each with the operation that made it, the latest first. -/
  moves : List (Nat × Record)

namespace Pool

variable [Platform]

/-- Operations of which none has gone on yet. -/
def begin (config : Config) (commands : List Command) (session : Session) : Pool :=
  { session
    rest := commands.map fun command => command.program config
    moves := [] }

/-- One operation goes on, if it is not over. -/
def step (pool : Pool) (i : Nat) : Pool :=
  match pool.rest[i]? with
  | some (.call c next) =>
      let (answer, store) := pool.session.store.answer c
      { session := { pool.session with store }
        rest := pool.rest.set i (next answer)
        moves := (i, ⟨c, answer⟩) :: pool.moves }
  | some (.announce event next) =>
      { pool with
        session := { pool.session with pending := pool.session.pending ++ [event] }
        rest := pool.rest.set i next }
  | _ => pool

/-- The operations go on in the order of a schedule. -/
def run (schedule : List Nat) (pool : Pool) : Pool := schedule.foldl step pool

/-- The calls of one operation, the latest first. -/
def own (pool : Pool) (i : Nat) : History :=
  (pool.moves.filter fun move => move.1 = i).map Prod.snd

/-! ## One step -/

section

variable (pool : Pool) {i : Nat}

theorem step_of_call {c : Call} {next : c.Answer → Program Reply}
    (here : pool.rest[i]? = some (.call c next)) :
    pool.step i =
      { session := { pool.session with store := (pool.session.store.answer c).2 }
        rest := pool.rest.set i (next (pool.session.store.answer c).1)
        moves := (i, ⟨c, (pool.session.store.answer c).1⟩) :: pool.moves } := by
  rw [step, here]

theorem step_of_announce {event : Event} {next : Program Reply}
    (here : pool.rest[i]? = some (.announce event next)) :
    pool.step i =
      { pool with
        session := { pool.session with pending := pool.session.pending ++ [event] }
        rest := pool.rest.set i next } := by
  rw [step, here]

/-- What a step can do. -/
theorem step_cases (i : Nat) :
    (∃ c next, pool.rest[i]? = some (.call c next)) ∨
    (∃ event next, pool.rest[i]? = some (.announce event next)) ∨
    pool.step i = pool := by
  rw [step]
  split
  · exact .inl ⟨_, _, ‹_›⟩
  · exact .inr (.inl ⟨_, _, ‹_›⟩)
  · exact .inr (.inr rfl)

omit [Platform] in
/-- A call is added to those of its operation, and to no other's. -/
theorem own_cons (session : Session) (rest : List (Program Reply)) (record : Record) (j : Nat) :
    Pool.own ⟨session, rest, (i, record) :: pool.moves⟩ j =
      if i = j then record :: pool.own j else pool.own j := by
  by_cases same : i = j <;> simp [own, same]

end

/-! ## An operation alone -/

theorem run_single (p : Program Reply) (session : Session) (moves : List (Nat × Record)) :
    ∃ schedule later,
      Pool.run schedule ⟨session, [p], moves⟩ =
        ⟨(p.run session).2, [.done (p.run session).1], later⟩ := by
  induction p generalizing session moves with
  | done result => exact ⟨[], moves, rfl⟩
  | call c next ih =>
    obtain ⟨schedule, later, ended⟩ := ih (session.store.answer c).1
      { session with store := (session.store.answer c).2 }
      ((0, ⟨c, (session.store.answer c).1⟩) :: moves)
    exact ⟨0 :: schedule, later, ended⟩
  | announce event next ih =>
    obtain ⟨schedule, later, ended⟩ := ih
      { session with pending := session.pending ++ [event] } moves
    exact ⟨0 :: schedule, later, ended⟩

/-- An operation that goes on alone until it is over comes to what it comes to when it is run. -/
theorem run_alone (config : Config) (command : Command) (session : Session) :
    ∃ schedule moves,
      Pool.run schedule (begin config [command] session) =
        ⟨(command.run config session).2, [.done (command.run config session).1], moves⟩ :=
  run_single (command.program config) session []

end Pool

end SearchTuning

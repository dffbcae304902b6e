import SearchTuning.Proofs.Interleaving.Numbers
import SearchTuning.Proofs.Interleaving.Pool
import SearchTuning.Proofs.Store.Numbering

/-!
# Creating tries side by side

A number is taken by one call, so no two operations have the same.  From then on the try that is to
have it is under way, but cannot be found: whatever else goes on in between has no grounds to write
under the number, and deleting finds nothing to delete.  So the variables stay as they were written,
and the try is saved where there is none.
-/

namespace SearchTuning

open Store

namespace Pool

/-- The numbers that were taken in a case, each with the operation that took it, the latest
first. -/
def taken (pool : Pool) (caseId : Int) : List (Nat × Int) :=
  pool.moves.filterMap fun move => (move.2.number? caseId).map fun n => (move.1, n)

theorem taken_cons (session : Session) (rest : List (Program Reply)) (i : Nat) (record : Record)
    (moves : List (Nat × Record)) (caseId : Int) :
    Pool.taken ⟨session, rest, (i, record) :: moves⟩ caseId =
      ((record.number? caseId).map fun n => (i, n)).toList ++
        Pool.taken ⟨session, rest, moves⟩ caseId := by
  cases number : record.number? caseId <;> simp [taken, number]

theorem taken_step_of_call [Platform] {pool : Pool} {i : Nat} {c : Call}
    {next : c.Answer → Program Reply}
    (here : pool.rest[i]? = some (.call c next)) (caseId : Int) :
    (pool.step i).taken caseId =
      ((Record.number? caseId ⟨c, (pool.session.store.answer c).1⟩).map fun n => (i, n)).toList ++
        pool.taken caseId := by
  rw [pool.step_of_call here]
  exact taken_cons _ _ _ _ _ _

/-- The numbers that were taken are those of the calls that took them. -/
theorem mem_taken {pool : Pool} {i : Nat} {caseId n : Int} :
    (i, n) ∈ pool.taken caseId ↔ ∃ record ∈ pool.own i, record.number? caseId = some n := by
  simp only [taken, own, List.mem_filterMap, List.mem_map, List.mem_filter]
  constructor
  · rintro ⟨move, member, numbered⟩
    obtain ⟨m, number, same⟩ := Option.map_eq_some_iff.mp numbered
    obtain ⟨here, rfl⟩ := Prod.mk.inj same
    exact ⟨move.2, ⟨move, ⟨member, decide_eq_true here⟩, rfl⟩, number⟩
  · rintro ⟨record, ⟨move, ⟨member, here⟩, rfl⟩, number⟩
    refine ⟨move, member, ?_⟩
    rw [number, ← of_decide_eq_true here]
    rfl

end Pool

theorem Store.Record.known_of_number? {record : Record} {caseId n : Int}
    (number : record.number? caseId = some n) : (caseId, n) ∈ record.known := by
  rcases record with ⟨call, answer⟩
  cases call with
  | incrementLastTry c =>
    cases answer with
    | none => cases number
    | some m =>
      change (if c = caseId then some m else none) = some n at number
      split at number
      · next same =>
        cases number
        rw [same]
        exact List.mem_singleton_self _
      · cases number
  | _ => cases number

/-! ## Numbers whose try is under way -/

/-- The last that was done was to take a number, or then to write the variables under it. -/
inductive Reserves : History → Int → Int → Option VariableMap → Prop where
  | taken {caseId tryNo : Int} {earlier : History} :
      Reserves (⟨.incrementLastTry caseId, some tryNo⟩ :: earlier) caseId tryNo none
  | written {caseId tryNo : Int} {vars : VariableMap} {earlier : History} :
      Reserves (⟨.replaceVariables caseId tryNo vars, ()⟩ ::
        ⟨.incrementLastTry caseId, some tryNo⟩ :: earlier) caseId tryNo (some vars)

namespace Reserves

variable {history : History} {caseId tryNo : Int} {written : Option VariableMap}

theorem known (reserves : Reserves history caseId tryNo written) :
    (caseId, tryNo) ∈ history.known := by
  cases reserves with
  | taken => exact List.mem_cons_self
  | written => exact List.mem_cons_self

theorem cases_cons {record : Record}
    (reserves : Reserves (record :: history) caseId tryNo written) :
    (record = ⟨.incrementLastTry caseId, some tryNo⟩ ∧ written = none) ∨
    ∃ vars, record = ⟨.replaceVariables caseId tryNo vars, ()⟩ ∧ written = some vars ∧
      Reserves history caseId tryNo none := by
  generalize whole : record :: history = all at reserves
  cases reserves with
  | taken => exact .inl ⟨(List.cons.inj whole).1, rfl⟩
  | written =>
    obtain ⟨here, earlier⟩ := List.cons.inj whole
    exact .inr ⟨_, here, rfl, earlier ▸ .taken⟩

end Reserves

namespace Pool

/-- A number whose try is under way: no try can be found under it, no other operation knows it, and
the variables that were written under it are there. -/
structure Holds (pool : Pool) (i : Nat) (caseId tryNo : Int) (written : Option VariableMap) :
    Prop where
  vacant : pool.session.store.findTry caseId tryNo = none
  alone : ∀ j, j ≠ i → (caseId, tryNo) ∉ (pool.own j).known
  vars_eq : ∀ vars, written = some vars →
    pool.session.store.variablesOf caseId tryNo = vars

/-- What is so at every moment of operations that go on side by side. -/
structure Orderly (start : Store) (pool : Pool) : Prop where
  nextIsNew : pool.session.store.NextIsNew
  keyed : pool.session.store.Keyed
  /-- There is no try with a number that has not been given out. -/
  unborn : ∀ caseId tryNo, pool.session.store.lastTryOf caseId < tryNo →
    pool.session.store.findTry caseId tryNo = none
  grounded : ∀ i (p : Program Reply), pool.rest[i]? = some p →
    p.Follows Grounded (fun _ _ => True) (pool.own i)
  /-- What an operation knows has been given out. -/
  known_born : ∀ i, ∀ key ∈ (pool.own i).known,
    key.2 ≤ pool.session.store.lastTryOf key.1
  reserved : ∀ i caseId tryNo written, Reserves (pool.own i) caseId tryNo written →
    pool.Holds i caseId tryNo written
  counted : ∀ caseId, pool.session.store.lastTryOf caseId =
    start.lastTryOf caseId + (pool.taken caseId).length
  taken_descending : ∀ caseId, ((pool.taken caseId).map Prod.snd).Pairwise (· > ·)

section

variable [Platform]

theorem orderly_begin (config : Config) (commands : List Command) {session : Session}
    (kept : session.store.Integrity) : Orderly session.store (begin config commands session) where
  nextIsNew := kept.nextIsNew
  keyed := kept.keyed
  unborn := by
    intro caseId tryNo later
    cases found : session.store.findTry caseId tryNo with
    | none => exact found
    | some t =>
      obtain ⟨owner, owned, -, counted⟩ := kept.try_counted _ (Table.mem_of_get? found)
      obtain ⟨rfl, rfl⟩ := kept.findTry_filed found
      have last : session.store.lastTryOf t.caseId = owner.lastTry := lastTryOf_of_findCase owned
      change session.store.lastTryOf t.caseId < t.tryNo at later
      rw [last] at later
      exact absurd counted (Int.not_le.mpr later)
  grounded := by
    intro i p here
    change (commands.map _)[i]? = some p at here
    rw [List.getElem?_map] at here
    obtain ⟨command, -, rfl⟩ := Option.map_eq_some_iff.mp here
    exact command.follows_program config
  known_born := fun i key known => absurd known List.not_mem_nil
  reserved := fun i caseId tryNo written reserves => nomatch reserves
  counted := fun caseId => (Int.add_zero _).symm
  taken_descending := fun caseId => .nil

/-! ## Following -/

section

variable {good : History → Call → Prop} {post : History → Reply → Prop} {pool : Pool} {i : Nat}

/-- What is left of an operation follows its own calls, whichever operation goes on. -/
theorem follows_step
    (follows : ∀ p : Program Reply, pool.rest[i]? = some p → p.Follows good post (pool.own i))
    (j : Nat) :
    ∀ p : Program Reply, (pool.step j).rest[i]? = some p →
      p.Follows good post ((pool.step j).own i) := by
  intro p left
  rcases pool.step_cases j with ⟨c, next, here⟩ | ⟨event, next, here⟩ | same
  · rw [pool.step_of_call here] at left ⊢
    rw [own_cons]
    by_cases mine : j = i
    · subst mine
      rw [List.getElem?_set_self (List.getElem?_eq_some_iff.mp here).1] at left
      cases left
      rw [if_pos rfl]
      exact (follows _ here).2 _
    · rw [List.getElem?_set_ne mine] at left
      rw [if_neg mine]
      exact follows p left
  · rw [pool.step_of_announce here] at left ⊢
    by_cases mine : j = i
    · subst mine
      rw [List.getElem?_set_self (List.getElem?_eq_some_iff.mp here).1] at left
      cases left
      have before := follows _ here
      exact before
    · rw [List.getElem?_set_ne mine] at left
      exact follows p left
  · rw [same] at left ⊢
    exact follows p left

theorem follows_run
    (follows : ∀ p : Program Reply, pool.rest[i]? = some p → p.Follows good post (pool.own i))
    (schedule : List Nat) :
    ∀ p : Program Reply, (pool.run schedule).rest[i]? = some p →
      p.Follows good post ((pool.run schedule).own i) := by
  induction schedule generalizing pool with
  | nil => exact follows
  | cons j schedule ih => exact ih (follows_step follows j)

end

/-! ## One call -/

namespace Orderly

variable {start : Store} {pool : Pool} (orderly : Orderly start pool) {j : Nat} {c : Call}
variable {next : c.Answer → Program Reply} (here : pool.rest[j]? = some (.call c next))

include orderly

omit [Platform] in
theorem le_of_known {i : Nat} {caseId tryNo : Int} (known : (caseId, tryNo) ∈ (pool.own i).known) :
    tryNo ≤ pool.session.store.lastTryOf caseId :=
  orderly.known_born i _ known

omit [Platform] in
theorem le_of_found {caseId tryNo : Int} {t : Try}
    (found : pool.session.store.findTry caseId tryNo = some t) :
    tryNo ≤ pool.session.store.lastTryOf caseId := by
  by_contra later
  rw [orderly.unborn caseId tryNo (Int.not_le.mp later)] at found
  cases found

include here

omit [Platform] in
/-- An operation writes only where it knows of a try or a number. -/
theorem known_of_writes {caseId tryNo : Int} (writes : c.writtenKey? = some (caseId, tryNo)) :
    (caseId, tryNo) ∈ (pool.own j).known :=
  (orderly.grounded j _ here).1 _ writes

theorem unborn_call {caseId tryNo : Int}
    (later : (pool.session.store.answer c).2.lastTryOf caseId < tryNo) :
    (pool.session.store.answer c).2.findTry caseId tryNo = none := by
  have grows := lastTryOf_le_answer orderly.nextIsNew c caseId
  have before : pool.session.store.lastTryOf caseId < tryNo := Int.lt_of_le_of_lt grows later
  refine findTry_answer_of_none (orderly.unborn caseId tryNo before) fun writes => ?_
  have given := orderly.le_of_known (orderly.known_of_writes here writes)
  omega

theorem known_born_call (i : Nat) {key : Int × Int} (known : key ∈ ((pool.step j).own i).known) :
    key.2 ≤ (pool.session.store.answer c).2.lastTryOf key.1 := by
  have grows := lastTryOf_le_answer orderly.nextIsNew c key.1
  rw [pool.step_of_call here, own_cons] at known
  split at known
  · rw [History.known_cons] at known
    rcases List.mem_append.mp known with learned | before
    · rcases known_answer orderly.keyed learned with ⟨t, found⟩ | number
      · exact Int.le_trans (orderly.le_of_found found) grows
      · rw [lastTryOf_answer orderly.nextIsNew, number]
        exact Int.le_refl _
    · exact Int.le_trans (orderly.known_born i key before) grows
  · exact Int.le_trans (orderly.known_born i key known) grows

/-- A number that an operation has just taken. -/
theorem holds_of_taken {caseId tryNo : Int}
    (number : Record.number? caseId ⟨c, (pool.session.store.answer c).1⟩ = some tryNo) :
    (pool.step j).Holds j caseId tryNo none := by
  have last := number?_answer number
  have vacant := orderly.unborn caseId tryNo (by omega)
  rw [pool.step_of_call here]
  refine ⟨?_, ?_, fun vars written => nomatch written⟩
  · refine findTry_answer_of_none vacant fun writes => ?_
    have given := orderly.le_of_known (orderly.known_of_writes here writes)
    omega
  · intro i other known
    rw [own_cons, if_neg (Ne.symm other)] at known
    have given := orderly.le_of_known known
    omega

/-- An operation that holds a number writes its variables. -/
theorem holds_of_written {caseId tryNo : Int} {vars : VariableMap}
    (writes : c = .replaceVariables caseId tryNo vars)
    (reserves : Reserves (pool.own j) caseId tryNo none) :
    (pool.step j).Holds j caseId tryNo (some vars) := by
  have holds := orderly.reserved j caseId tryNo none reserves
  subst writes
  rw [pool.step_of_call here]
  refine ⟨holds.vacant, ?_, ?_⟩
  · intro i other
    rw [own_cons, if_neg (Ne.symm other)]
    exact holds.alone i other
  · rintro _ ⟨⟩
    exact (variablesOf_replaceVariables _ caseId tryNo vars caseId tryNo).trans (if_pos rfl)

/-- While another operation goes on, a number stays held. -/
theorem holds_of_other {i : Nat} {caseId tryNo : Int} {written : Option VariableMap}
    (other : j ≠ i) (reserves : Reserves (pool.own i) caseId tryNo written) :
    (pool.step j).Holds i caseId tryNo written := by
  have holds := orderly.reserved i caseId tryNo written reserves
  have spared : c.writtenKey? ≠ some (caseId, tryNo) := fun writes =>
    holds.alone j other (orderly.known_of_writes here writes)
  rw [pool.step_of_call here]
  refine ⟨findTry_answer_of_none holds.vacant spared, ?_, ?_⟩
  · intro k apart known
    rw [own_cons] at known
    split at known
    · rw [History.known_cons] at known
      rcases List.mem_append.mp known with learned | before
      · rcases known_answer orderly.keyed learned with ⟨t, found⟩ | number
        · rw [holds.vacant] at found
          cases found
        · -- A number that is taken now is greater than all that were taken.
          have last := number?_answer number
          have given := orderly.le_of_known reserves.known
          change tryNo = pool.session.store.lastTryOf caseId + 1 at last
          omega
      · exact holds.alone k apart before
    · exact holds.alone k apart known
  · intro vars wrote
    exact (variablesOf_answer_of_none holds.vacant spared).trans (holds.vars_eq vars wrote)

theorem reserved_call (i : Nat) {caseId tryNo : Int} {written : Option VariableMap}
    (reserves : Reserves ((pool.step j).own i) caseId tryNo written) :
    (pool.step j).Holds i caseId tryNo written := by
  have own_eq := pool.own_cons (i := j) { pool.session with store := (pool.session.store.answer c).2 }
    (pool.rest.set j (next (pool.session.store.answer c).1)) ⟨c, (pool.session.store.answer c).1⟩ i
  rw [← pool.step_of_call here] at own_eq
  rw [own_eq] at reserves
  by_cases mine : j = i
  · subst mine
    rw [if_pos rfl] at reserves
    rcases reserves.cases_cons with ⟨took, rfl⟩ | ⟨vars, wrote, rfl, before⟩
    · refine orderly.holds_of_taken here ?_
      rw [took]
      exact if_pos rfl
    · exact orderly.holds_of_written here (congrArg Record.call wrote) before
  · rw [if_neg mine] at reserves
    exact orderly.holds_of_other here mine reserves

theorem counted_call (caseId : Int) :
    (pool.session.store.answer c).2.lastTryOf caseId =
      start.lastTryOf caseId + ((pool.step j).taken caseId).length := by
  rw [taken_step_of_call here, lastTryOf_answer orderly.nextIsNew]
  have counted := orderly.counted caseId
  cases number : Record.number? caseId ⟨c, (pool.session.store.answer c).1⟩ with
  | none => exact counted
  | some n =>
    have last := number?_answer number
    change n = start.lastTryOf caseId + ((pool.taken caseId).length + 1 : Nat)
    omega

theorem taken_descending_call (caseId : Int) :
    (((pool.step j).taken caseId).map Prod.snd).Pairwise (· > ·) := by
  rw [taken_step_of_call here]
  have descending := orderly.taken_descending caseId
  cases number : Record.number? caseId ⟨c, (pool.session.store.answer c).1⟩ with
  | none => exact descending
  | some n =>
    refine List.pairwise_cons.mpr ⟨?_, descending⟩
    intro m member
    obtain ⟨⟨i, _⟩, taken, rfl⟩ := List.mem_map.mp member
    obtain ⟨record, made, numbered⟩ := mem_taken.mp taken
    have known := List.mem_flatMap.mpr ⟨record, made, Record.known_of_number? numbered⟩
    have given := orderly.le_of_known known
    have last := number?_answer number
    change n > _
    omega

theorem call : Orderly start (pool.step j) where
  nextIsNew := by
    rw [pool.step_of_call here]
    exact orderly.nextIsNew.answer c
  keyed := by
    rw [pool.step_of_call here]
    exact orderly.keyed.answer c
  unborn := by
    intro caseId tryNo
    rw [pool.step_of_call here]
    exact orderly.unborn_call here
  grounded := fun i => follows_step (orderly.grounded i) j
  known_born := by
    intro i key known
    have born := orderly.known_born_call here i known
    rw [pool.step_of_call here]
    exact born
  reserved := fun i _ _ _ => orderly.reserved_call here i
  counted := by
    intro caseId
    have counted := orderly.counted_call here caseId
    rw [pool.step_of_call here] at counted ⊢
    exact counted
  taken_descending := orderly.taken_descending_call here

end Orderly

/-! ## Runs -/

section

variable {start : Store} {pool : Pool}

theorem Orderly.announce (orderly : Orderly start pool) {j : Nat} {event : Event}
    {next : Program Reply} (here : pool.rest[j]? = some (.announce event next)) :
    Orderly start (pool.step j) := by
  have grounded := fun i => follows_step (orderly.grounded i) j
  rw [pool.step_of_announce here] at grounded ⊢
  refine ⟨orderly.nextIsNew, orderly.keyed, orderly.unborn, grounded, orderly.known_born, ?_,
    orderly.counted, orderly.taken_descending⟩
  intro i caseId tryNo written reserves
  have holds := orderly.reserved i caseId tryNo written reserves
  exact ⟨holds.vacant, holds.alone, holds.vars_eq⟩

/-- Whichever operation goes on, all stays orderly. -/
theorem Orderly.step (orderly : Orderly start pool) (j : Nat) : Orderly start (pool.step j) := by
  rcases pool.step_cases j with ⟨c, next, here⟩ | ⟨event, next, here⟩ | same
  · exact orderly.call here
  · exact orderly.announce here
  · rw [same]
    exact orderly

theorem Orderly.run (orderly : Orderly start pool) (schedule : List Nat) :
    Orderly start (pool.run schedule) := by
  induction schedule generalizing pool with
  | nil => exact orderly
  | cons j schedule ih => exact ih (orderly.step j)

omit [Platform] in
/-- No two operations have taken the same number. -/
theorem Orderly.taken_apart (orderly : Orderly start pool) {caseId n : Int} {i j : Nat}
    (one : (i, n) ∈ pool.taken caseId) (other : (j, n) ∈ pool.taken caseId) : i = j := by
  have apart : ((pool.taken caseId).map Prod.snd).Nodup :=
    (orderly.taken_descending caseId).imp fun descends => Int.ne_of_gt descends
  exact (Prod.mk.inj (List.inj_on_of_nodup_map apart one other rfl)).1

end

/-- The try that an operation is about to save, if that is its next call. -/
def saving? (pool : Pool) (i : Nat) : Option Try :=
  match pool.rest[i]? with
  | some (.call (.saveTry t) _) => some t
  | _ => none

omit [Platform] in
theorem rest_of_saving? {pool : Pool} {i : Nat} {t : Try} (saving : pool.saving? i = some t) :
    ∃ next, pool.rest[i]? = some (.call (.saveTry t) next) := by
  rw [saving?] at saving
  split at saving
  · next here =>
    cases saving
    exact ⟨_, here⟩
  · cases saving

theorem follows_begin (config : Config) {commands : List Command} (session : Session) {i : Nat}
    {command : Command} (given : commands[i]? = some command) {good : History → Call → Prop}
    {post : History → Reply → Prop} (follows : (command.program config).Follows good post [])
    (schedule : List Nat) :
    ∀ p : Program Reply, ((begin config commands session).run schedule).rest[i]? = some p →
      p.Follows good post (((begin config commands session).run schedule).own i) := by
  refine follows_run (fun p here => ?_) schedule
  change (commands.map _)[i]? = some p at here
  rw [List.getElem?_map, given] at here
  cases here
  exact follows

end

end Pool

theorem Creating.of_saveTry [Platform] {caseId : Int} {history : History} {t : Try}
    (creating : Creating caseId history (.saveTry t)) :
    t.caseId = caseId ∧ ∃ owner vars,
      history =
        [⟨.replaceVariables caseId t.tryNo vars, ()⟩, ⟨.incrementLastTry caseId, some t.tryNo⟩,
          ⟨.getCase caseId, some owner⟩] ∧
      t.compile vars none = .ok t.args := by
  cases creating with
  | save owner t vars filed compiled => exact ⟨filed, owner, vars, rfl, compiled⟩

namespace Pool

/-- However operations go on side by side, call by call, from what a history has led to: the numbers
that are taken in a case ascend, and no two operations take the same; the last number of a case is
the one it had and as many more as were taken; an operation that is about to save a new try has
looked for the case, taken the number and written the variables, there is no try under the number,
the variables under it are those that it wrote, and the args of the try are what its template comes
to with them. -/
theorem run_creations_apart [Platform] (config : Config) (history commands : List Command)
    (schedule : List Nat) :
    let start := Command.reached config history
    let pool := (begin config commands start).run schedule
    let store := pool.session.store
    (∀ caseId, ((pool.taken caseId).map Prod.snd).Pairwise (· > ·)) ∧
    (∀ caseId n i j, (i, n) ∈ pool.taken caseId → (j, n) ∈ pool.taken caseId → i = j) ∧
    (∀ caseId found, store.findCase caseId = some found →
      found.lastTry = start.store.lastTryOf caseId + (pool.taken caseId).length) ∧
    ∀ i caseId submission, commands[i]? = some (.createTry caseId submission) →
      (∀ t, pool.saving? i = some t →
        t.caseId = caseId ∧
        (i, t.tryNo) ∈ pool.taken caseId ∧
        store.findTry caseId t.tryNo = none ∧
        ∃ owner vars,
          pool.own i =
            [⟨.replaceVariables caseId t.tryNo vars, ()⟩,
              ⟨.incrementLastTry caseId, some t.tryNo⟩, ⟨.getCase caseId, some owner⟩] ∧
          store.variablesOf caseId t.tryNo = vars ∧
          t.compile vars none = .ok t.args) ∧
      ∀ view, pool.rest[i]? = some (.done (.ok (.view view))) →
        (i, view.tryNo) ∈ pool.taken caseId := by
  intro start pool store
  have orderly : Orderly start.store pool :=
    (orderly_begin config commands (integrity_reached config history)).run schedule
  refine ⟨orderly.taken_descending, fun _ _ _ _ => orderly.taken_apart, ?_, ?_⟩
  · intro caseId found there
    rw [← orderly.counted caseId, lastTryOf_of_findCase there]
  · intro i caseId submission given
    have follows := follows_begin config start given
      (Command.follows_createTry config caseId submission) schedule
    refine ⟨fun t saving => ?_, fun view ended => ?_⟩
    · obtain ⟨next, here⟩ := rest_of_saving? saving
      obtain ⟨filed, owner, vars, own_eq, compiled⟩ := (follows _ here).1.of_saveTry
      have reserves : Reserves (pool.own i) caseId t.tryNo (some vars) := own_eq ▸ .written
      have holds := orderly.reserved i caseId t.tryNo (some vars) reserves
      have took : (i, t.tryNo) ∈ pool.taken caseId :=
        mem_taken.mpr ⟨⟨.incrementLastTry caseId, some t.tryNo⟩, by rw [own_eq]; simp, if_pos rfl⟩
      exact ⟨filed, took, holds.vacant, owner, vars, own_eq, holds.vars_eq vars rfl, compiled⟩
    · obtain ⟨_, same, took⟩ := follows _ ended
      cases same
      exact mem_taken.mpr ⟨_, took, if_pos rfl⟩

/-- Two creations in one case, with a deletion of the one that is under way. -/
theorem run_creations_apart_two :
    letI := Platform.usual
    let commands : List Command :=
      [.createTry 1 .absent,
        .createTry 1 (.unread (.obj
          [(Text.ofString "queryParams", .str (Text.ofString "q=\x7bwho\x7d")),
            (Text.ofString "curatorVars", .obj [(Text.ofString "who", .str (Text.ofString "x"))])])),
        .deleteTry 1 2]
    let start := Command.reached Config.standard [.createCase (.str (Text.ofString "a"))]
    let pool := (begin Config.standard commands start).run [0, 1, 0, 1, 1, 2, 0, 2]
    (pool.saving? 0).map Try.tryNo = some 1 ∧
    (pool.saving? 1).map Try.tryNo = some 2 ∧
    ∀ t, pool.saving? 1 = some t →
      pool.session.store.findTry 1 t.tryNo = none ∧
      t.compile (pool.session.store.variablesOf 1 t.tryNo) none = .ok t.args := by
  refine ⟨by decide +kernel, by decide +kernel, fun t saving => ?_⟩
  obtain ⟨-, -, -, creations⟩ := @run_creations_apart Platform.usual Config.standard
    [.createCase (.str (Text.ofString "a"))] _ [0, 1, 0, 1, 1, 2, 0, 2]
  obtain ⟨-, -, vacant, owner, vars, -, vars_eq, compiled⟩ := (creations 1 1 _ rfl).1 t saving
  rw [← vars_eq] at compiled
  exact ⟨vacant, compiled⟩

end Pool

end SearchTuning

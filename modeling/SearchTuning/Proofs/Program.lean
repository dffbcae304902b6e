import SearchTuning.Program

/-!
# Running programs step by step

A program made of parts runs as its parts do, one after the other, until one fails.  A program that
begins with a call to the store goes on with the answer, in the store as the call leaves it.
-/

namespace SearchTuning.Program

variable [Platform] {α β : Type} (session : Session)

@[simp] theorem run_ofExcept (result : Except Error α) :
    (ofExcept result).run session = (result, session) := rfl

theorem run_bind (p : Program α) (f : α → Program β) :
    (p >>= f).run session =
      match p.run session with
      | (.ok a, after) => (f a).run after
      | (.error e, after) => (.error e, after) := by
  change (p.andThen f).run session = _
  induction p generalizing session with
  | done result => cases result <;> rfl
  | call c next ih => exact ih _ _
  | announce event next ih => exact ih _

@[simp] theorem run_map (f : α → β) (p : Program α) :
    (f <$> p).run session = ((p.run session).1.map f, (p.run session).2) := by
  change (p >>= fun a => pure (f a)).run session = _
  rw [run_bind]
  rcases p.run session with ⟨_ | a, after⟩ <;> rfl

theorem run_bind_of_ok {p : Program α} {before after : Session} {a : α}
    (ran : p.run before = (.ok a, after)) (f : α → Program β) :
    (p >>= f).run before = (f a).run after := by
  rw [run_bind, ran]

@[simp] theorem run_ok_bind (a : α) (f : α → Program β) :
    (ofExcept (.ok a) >>= f).run session = (f a).run session := rfl

variable {session} in
/-- An error of two steps, of which the first touches nothing, is an error of one of them. -/
theorem run_ofExcept_bind_eq_error {result : Except Error α} {f : α → Program β} {e : Error}
    (failed : ((ofExcept result >>= f).run session).1 = .error e) :
    result = .error e ∨ ∃ a, result = .ok a ∧ ((f a).run session).1 = .error e := by
  cases result with
  | error cause =>
    cases failed
    exact .inl rfl
  | ok a => exact .inr ⟨a, rfl, failed⟩

/-! ## Calls -/

@[simp] theorem run_getCase_bind (caseId : Int) (f : Option Case → Program β) :
    (ask (.getCase caseId) >>= f).run session =
      (f (session.store.findCase caseId)).run session := rfl

@[simp] theorem run_incrementLastTry_bind (caseId : Int) (f : Option Int → Program β) :
    (ask (.incrementLastTry caseId) >>= f).run session =
      (f (session.store.incrementLastTry caseId).1).run
        { session with store := (session.store.incrementLastTry caseId).2 } := rfl

@[simp] theorem run_getTry_bind (caseId tryNo : Int) (f : Option Try → Program β) :
    (ask (.getTry caseId tryNo) >>= f).run session =
      (f (session.store.findTry caseId tryNo)).run session := rfl

@[simp] theorem run_deleteTry_bind (caseId tryNo : Int) (f : Bool → Program β) :
    (ask (.deleteTry caseId tryNo) >>= f).run session =
      (f (session.store.deleteTry caseId tryNo).1).run
        { session with store := (session.store.deleteTry caseId tryNo).2 } := rfl

@[simp] theorem run_getVariables_bind (caseId tryNo : Int) (f : Table Text Text → Program β) :
    (ask (.getVariables caseId tryNo) >>= f).run session =
      (f (session.store.variablesOf caseId tryNo)).run session := rfl

end SearchTuning.Program

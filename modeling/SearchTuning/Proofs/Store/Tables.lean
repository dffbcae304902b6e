import SearchTuning.Proofs.Table
import SearchTuning.Store
import SearchTuning.Variables

/-!
# What a write leaves in the tables

For each of the calls that write, what is found after it, by what was found before.
-/

namespace SearchTuning.Store

variable (store : Store)

/-! ## Cases -/

theorem findCase_createCase (name : Text) (caseId : Int) :
    (store.createCase name).2.findCase caseId =
      if store.nextCaseId = caseId then some (store.createCase name).1
      else store.findCase caseId :=
  Table.get?_insert _ _ _ _

theorem findCase_incrementLastTry (c caseId : Int) :
    (store.incrementLastTry c).2.findCase caseId =
      if c = caseId then
        (store.findCase caseId).map fun found => { found with lastTry := found.lastTry + 1 }
      else store.findCase caseId := by
  rw [incrementLastTry]
  by_cases same : c = caseId
  · subst same
    rw [if_pos rfl]
    cases found : store.findCase c with
    | none => exact found
    | some owner => exact Table.get?_insert_self _ _ _
  · rw [if_neg same]
    cases store.findCase c with
    | none => rfl
    | some owner => exact Table.get?_insert_of_ne same _ _

/-- Counting a try touches only the table of cases. -/
theorem tries_incrementLastTry (c : Int) : (store.incrementLastTry c).2.tries = store.tries := by
  rw [incrementLastTry]
  cases store.findCase c <;> rfl

theorem variableMaps_incrementLastTry (c : Int) :
    (store.incrementLastTry c).2.variableMaps = store.variableMaps := by
  rw [incrementLastTry]
  cases store.findCase c <;> rfl

theorem nextCaseId_incrementLastTry (c : Int) :
    (store.incrementLastTry c).2.nextCaseId = store.nextCaseId := by
  rw [incrementLastTry]
  cases store.findCase c <;> rfl

/-! ## Tries -/

theorem findTry_incrementLastTry (c caseId tryNo : Int) :
    (store.incrementLastTry c).2.findTry caseId tryNo = store.findTry caseId tryNo := by
  rw [findTry, tries_incrementLastTry, ← findTry]

/-- A try that is put there is found. -/
theorem findTry_putTry (t : Try) : (store.putTry t).findTry t.caseId t.tryNo = some t :=
  Table.get?_insert_self _ _ _

/-- Saving a try touches only the table of tries, if anything. -/
theorem saveTry_cases [Platform] (t : Try) : (store.saveTry t).2.cases = store.cases := by
  rw [saveTry]
  split <;> rfl

theorem variableMaps_saveTry [Platform] (t : Try) :
    (store.saveTry t).2.variableMaps = store.variableMaps := by
  rw [saveTry]
  split <;> rfl

theorem nextCaseId_saveTry [Platform] (t : Try) :
    (store.saveTry t).2.nextCaseId = store.nextCaseId := by
  rw [saveTry]
  split <;> rfl

theorem findTry_saveTry_of_ne [Platform] {t : Try} {caseId tryNo : Int}
    (other : (t.caseId, t.tryNo) ≠ (caseId, tryNo)) :
    (store.saveTry t).2.findTry caseId tryNo = store.findTry caseId tryNo := by
  rw [saveTry]
  split
  · exact Table.get?_insert_of_ne other _ _
  · rfl

/-- Deleting a try touches no case. -/
theorem deleteTry_cases (c n : Int) : (store.deleteTry c n).2.cases = store.cases := by
  rw [deleteTry]
  split <;> rfl

theorem nextCaseId_deleteTry (c n : Int) :
    (store.deleteTry c n).2.nextCaseId = store.nextCaseId := by
  rw [deleteTry]
  split <;> rfl

theorem deleted_eq_isSome (c n : Int) : (store.deleteTry c n).1 = (store.findTry c n).isSome := by
  rw [deleteTry]
  split
  · next there => exact there.symm
  · next missing => exact (Bool.eq_false_iff.mpr missing).symm

theorem findTry_deleteTry (c n caseId tryNo : Int) :
    (store.deleteTry c n).2.findTry caseId tryNo =
      if (c, n) = (caseId, tryNo) then none else store.findTry caseId tryNo := by
  rw [deleteTry]
  split
  · exact Table.get?_erase (c, n) (caseId, tryNo) store.tries
  · next missing =>
    split
    · next same =>
      rw [same] at missing
      exact Option.not_isSome_iff_eq_none.mp missing
    · rfl

/-! ## Variables -/

theorem variablesOf_incrementLastTry (c caseId tryNo : Int) :
    (store.incrementLastTry c).2.variablesOf caseId tryNo = store.variablesOf caseId tryNo := by
  rw [variablesOf, variableMaps_incrementLastTry, ← variablesOf]

theorem variableMaps_replaceVariables (caseId tryNo : Int) (vars : VariableMap) (key : Int × Int) :
    Table.get? key (store.replaceVariables caseId tryNo vars).variableMaps =
      if (caseId, tryNo) = key then if vars = [] then none else some vars
      else Table.get? key store.variableMaps := by
  rw [replaceVariables]
  by_cases none : vars = []
  · simp only [if_pos none, Table.get?_erase]
  · simp only [if_neg none, Table.get?_insert]

theorem variablesOf_replaceVariables (caseId tryNo : Int) (vars : VariableMap) (c n : Int) :
    (store.replaceVariables caseId tryNo vars).variablesOf c n =
      if (caseId, tryNo) = (c, n) then vars else store.variablesOf c n := by
  rw [variablesOf, variableMaps_replaceVariables, variablesOf]
  split
  · split
    · next none => exact none.symm
    · rfl
  · rfl

/-- Variables are lost only with their try. -/
theorem variablesOf_deleteTry (c n caseId tryNo : Int) :
    (store.deleteTry c n).2.variablesOf caseId tryNo =
      if (store.deleteTry c n).1 = true ∧ (c, n) = (caseId, tryNo) then []
      else store.variablesOf caseId tryNo := by
  rw [deleteTry]
  split
  · rw [variablesOf, Table.get?_erase]
    simp only [true_and]
    split <;> rfl
  · rw [if_neg fun both => Bool.false_ne_true both.1]

end SearchTuning.Store

import SearchTuning.Proofs.Store.Freshness

/-!
# What operations leave of a try

An operation touches one try at most.  All others stay as they are, with their variables.  Of the
try that it touches only the name and the args can become others, unless it is deleted.
-/

namespace SearchTuning

namespace Store

/-- A try and its variables are as they were. -/
structure SameTry (caseId tryNo : Int) (before after : Store) : Prop where
  try_eq : after.findTry caseId tryNo = before.findTry caseId tryNo
  vars_eq : after.variablesOf caseId tryNo = before.variablesOf caseId tryNo

namespace SameTry

variable {caseId tryNo : Int} {store : Store}

theorem refl : SameTry caseId tryNo store store := ⟨rfl, rfl⟩

theorem putTry {t : Try} (other : (t.caseId, t.tryNo) ≠ (caseId, tryNo)) :
    SameTry caseId tryNo store (store.putTry t) :=
  ⟨Table.get?_insert_of_ne other _ _, rfl⟩

theorem replaceVariables {c n : Int} (other : (c, n) ≠ (caseId, tryNo)) (vars : VariableMap) :
    SameTry caseId tryNo store (store.replaceVariables c n vars) := by
  refine ⟨rfl, ?_⟩
  rw [variablesOf_replaceVariables, if_neg other]

theorem deleteTry {c n : Int} (other : (c, n) ≠ (caseId, tryNo)) :
    SameTry caseId tryNo store (store.deleteTry c n).2 where
  try_eq := by rw [findTry_deleteTry, if_neg other]
  vars_eq := by rw [variablesOf_deleteTry, if_neg fun both => other both.2]

theorem trans {second third : Store} (first : SameTry caseId tryNo store second)
    (later : SameTry caseId tryNo second third) : SameTry caseId tryNo store third :=
  ⟨later.try_eq.trans first.try_eq, later.vars_eq.trans first.vars_eq⟩

end SameTry

end Store

variable [Platform]

namespace Lifecycle

open Store (SameTry)

variable {config : Config} {session : Session} {caseId tryNo c n : Int}

/-- The number of a new try is none that a stored try of the case has. -/
theorem Draft.ne_of_findTry {store : Store} {submission : Submission} (kept : store.Integrity)
    (draft : Draft config store c submission) {t : Try}
    (found : store.findTry caseId tryNo = some t) : (c, draft.tryNo) ≠ (caseId, tryNo) :=
  (kept.counted_of_findTry found).ne_draft draft

/-- Nothing stands yet under the number of a new try. -/
theorem Draft.findTry_eq_none {store : Store} {submission : Submission} (kept : store.Integrity)
    (draft : Draft config store c submission) : store.findTry c draft.tryNo = none := by
  cases found : store.findTry c draft.tryNo with
  | none => rfl
  | some t => exact absurd rfl (draft.ne_of_findTry kept found)

theorem Draft.get?_variableMaps {store : Store} {submission : Submission} (kept : store.Integrity)
    (draft : Draft config store c submission) :
    Table.get? (c, draft.tryNo) store.variableMaps = none := by
  cases held : Table.get? (c, draft.tryNo) store.variableMaps with
  | none => rfl
  | some vars =>
    have counted := (kept.variables_counted _ (Table.mem_of_get? held)).2
    exact absurd rfl (counted.ne_draft draft)

variable (other : (c, n) ≠ (caseId, tryNo))

include other

end Lifecycle

namespace Command

open Lifecycle Store

/-- The try that an operation renames, tunes or deletes, if it does anything. -/
def touched? : Command → Option (Int × Int)
  | .updateTry caseId tryNo _ | .renameTry caseId tryNo _ | .deleteTry caseId tryNo
  | .setVariable caseId tryNo .. | .removeVariable caseId tryNo _ => some (caseId, tryNo)
  | _ => none

variable {session : Session} {caseId tryNo : Int} {t : Try}

end Command

namespace Store

open Lifecycle

variable {config : Config} {before after : Session} {caseId tryNo : Int} {t u : Try}

end Store

end SearchTuning

import SearchTuning.Proofs.Lifecycle.Effect
import SearchTuning.Proofs.Store.Tables

/-!
# The integrity of the store

The three tables fit together: every try is one that its case has counted, and variables are held
only under numbers that their case has given out.  Each write keeps this, and so does every
operation, also one that fails on its way.
-/

namespace SearchTuning.Store

open Lifecycle

/-- Every try stands under the numbers of its case and its own, and only once. -/
structure Keyed (store : Store) : Prop where
  distinct : Table.Distinct store.tries
  filed : ∀ entry ∈ store.tries, entry.1 = (entry.2.caseId, entry.2.tryNo)

theorem Keyed.findTry_filed {store : Store} (keyed : store.Keyed) {caseId tryNo : Int} {t : Try}
    (found : store.findTry caseId tryNo = some t) : t.caseId = caseId ∧ t.tryNo = tryNo := by
  have filed : (caseId, tryNo) = (t.caseId, t.tryNo) :=
    keyed.filed _ (Table.mem_of_get? found)
  obtain ⟨first, second⟩ := Prod.mk.inj filed
  exact ⟨first.symm, second.symm⟩

/-- A case is there, and has given out a number. -/
def Counted (store : Store) (caseId tryNo : Int) : Prop :=
  ∃ owner, store.findCase caseId = some owner ∧ 1 ≤ tryNo ∧ tryNo ≤ owner.lastTry

/-- The three tables fit together. -/
structure Integrity (store : Store) : Prop where
  cases_distinct : Table.Distinct store.cases
  tries_distinct : Table.Distinct store.tries
  variables_distinct : Table.Distinct store.variableMaps
  /-- A case stands under its own number, one that has been given out. -/
  case_filed : ∀ entry ∈ store.cases,
    entry.1 = entry.2.id ∧ entry.2.id < store.nextCaseId ∧ 0 ≤ entry.2.lastTry
  /-- A try stands under the numbers of its case and its own. -/
  try_filed : ∀ entry ∈ store.tries, entry.1 = (entry.2.caseId, entry.2.tryNo)
  /-- The case of a try is there, and has counted the try. -/
  try_counted : ∀ entry ∈ store.tries, store.Counted entry.2.caseId entry.2.tryNo
  /-- Variables stand under a number that its case has given out, and there are some. -/
  variables_counted : ∀ entry ∈ store.variableMaps,
    entry.2 ≠ [] ∧ store.Counted entry.1.1 entry.1.2
  variables_tidy : ∀ entry ∈ store.variableMaps, VariableMap.Tidy entry.2

theorem integrity_empty : empty.Integrity where
  cases_distinct := Table.distinct_nil
  tries_distinct := Table.distinct_nil
  variables_distinct := Table.distinct_nil
  case_filed := by simp [empty]
  try_filed := by simp [empty]
  try_counted := by simp [empty]
  variables_counted := by simp [empty]
  variables_tidy := by simp [empty]

namespace Integrity

variable {store : Store}

theorem findCase_filed (kept : store.Integrity) {caseId : Int} {found : Case}
    (there : store.findCase caseId = some found) :
    found.id = caseId ∧ caseId < store.nextCaseId ∧ 0 ≤ found.lastTry := by
  obtain ⟨own, given, counted⟩ := kept.case_filed _ (Table.mem_of_get? there)
  have same : caseId = found.id := own
  exact ⟨same.symm, same ▸ given, counted⟩

theorem keyed (kept : store.Integrity) : store.Keyed := ⟨kept.tries_distinct, kept.try_filed⟩

theorem findTry_filed (kept : store.Integrity) {caseId tryNo : Int} {t : Try}
    (found : store.findTry caseId tryNo = some t) : t.caseId = caseId ∧ t.tryNo = tryNo :=
  kept.keyed.findTry_filed found

theorem counted_of_findTry (kept : store.Integrity) {caseId tryNo : Int} {t : Try}
    (found : store.findTry caseId tryNo = some t) : store.Counted caseId tryNo := by
  obtain ⟨rfl, rfl⟩ := kept.findTry_filed found
  exact kept.try_counted _ (Table.mem_of_get? found)

/-! ## Numbers that are given out -/

/-- A new case has a number that no case had. -/
theorem counted_createCase (kept : store.Integrity) (name : Text) {caseId tryNo : Int}
    (counted : store.Counted caseId tryNo) : (store.createCase name).2.Counted caseId tryNo := by
  obtain ⟨owner, found, within⟩ := counted
  have older : store.nextCaseId ≠ caseId := by
    have given := (kept.findCase_filed found).2.1
    omega
  exact ⟨owner, (Table.get?_insert_of_ne older _ _).trans found, within⟩

/-- A number that is given out stays so when its case, or another, counts a try more. -/
theorem counted_count {c : Int} {counting : Case} (there : store.findCase c = some counting)
    {caseId tryNo : Int} (counted : store.Counted caseId tryNo) :
    { store with
      cases := Table.insert c { counting with lastTry := counting.lastTry + 1 } store.cases :
      Store }.Counted caseId tryNo := by
  obtain ⟨owner, found, positive, within⟩ := counted
  by_cases same : c = caseId
  · subst same
    cases there.symm.trans found
    refine ⟨_, Table.get?_insert_self c _ store.cases, positive, ?_⟩
    exact Int.le_trans within (Int.le_add_of_nonneg_right (by decide))
  · exact ⟨owner, (Table.get?_insert_of_ne same _ _).trans found, positive, within⟩

/-! ## Writes -/

theorem createCase (kept : store.Integrity) (name : Text) :
    (store.createCase name).2.Integrity where
  cases_distinct := kept.cases_distinct.insert _ _
  tries_distinct := kept.tries_distinct
  variables_distinct := kept.variables_distinct
  case_filed := by
    intro entry member
    rcases Table.mem_insert kept.cases_distinct member with rfl | ⟨there, -⟩
    · exact ⟨rfl, Int.lt_succ _, Int.le_refl 0⟩
    · obtain ⟨own, given, counted⟩ := kept.case_filed entry there
      exact ⟨own, Int.lt_trans given (Int.lt_succ _), counted⟩
  try_filed := kept.try_filed
  try_counted := fun entry member =>
    kept.counted_createCase name (kept.try_counted entry member)
  variables_counted := fun entry member =>
    (kept.variables_counted entry member).imp_right (kept.counted_createCase name)
  variables_tidy := kept.variables_tidy

/-- Counting a try more in a case. -/
theorem count (kept : store.Integrity) {caseId : Int} {owner : Case}
    (found : store.findCase caseId = some owner) :
    { store with
      cases := Table.insert caseId { owner with lastTry := owner.lastTry + 1 } store.cases :
      Store }.Integrity where
  cases_distinct := kept.cases_distinct.insert _ _
  tries_distinct := kept.tries_distinct
  variables_distinct := kept.variables_distinct
  case_filed := by
    intro entry member
    rcases Table.mem_insert kept.cases_distinct member with rfl | ⟨there, -⟩
    · obtain ⟨rfl, given, counted⟩ := kept.findCase_filed found
      exact ⟨rfl, given, Int.add_nonneg counted (by decide)⟩
    · exact kept.case_filed entry there
  try_filed := kept.try_filed
  try_counted := fun entry member => counted_count found (kept.try_counted entry member)
  variables_counted := fun entry member =>
    (kept.variables_counted entry member).imp_right (counted_count found)
  variables_tidy := kept.variables_tidy

theorem putTry (kept : store.Integrity) {t : Try}
    (counted : store.Counted t.caseId t.tryNo) : (store.putTry t).Integrity where
  cases_distinct := kept.cases_distinct
  tries_distinct := kept.tries_distinct.insert _ _
  variables_distinct := kept.variables_distinct
  case_filed := kept.case_filed
  try_filed := by
    intro entry member
    rcases Table.mem_insert kept.tries_distinct member with rfl | ⟨there, -⟩
    · rfl
    · exact kept.try_filed entry there
  try_counted := by
    intro entry member
    rcases Table.mem_insert kept.tries_distinct member with rfl | ⟨there, -⟩
    · exact counted
    · exact kept.try_counted entry there
  variables_counted := kept.variables_counted
  variables_tidy := kept.variables_tidy

theorem replaceVariables (kept : store.Integrity) {caseId tryNo : Int}
    (counted : store.Counted caseId tryNo) {vars : VariableMap} (tidy : vars.Tidy) :
    (store.replaceVariables caseId tryNo vars).Integrity where
  cases_distinct := kept.cases_distinct
  tries_distinct := kept.tries_distinct
  variables_distinct := by
    rw [Store.replaceVariables]
    split
    · exact kept.variables_distinct.erase _
    · exact kept.variables_distinct.insert _ _
  case_filed := kept.case_filed
  try_filed := kept.try_filed
  try_counted := kept.try_counted
  variables_counted := by
    intro entry member
    rw [Store.replaceVariables] at member
    split at member
    · exact kept.variables_counted entry (Table.mem_erase.mp member).1
    · next filled =>
      rcases Table.mem_insert kept.variables_distinct member with rfl | ⟨there, -⟩
      · exact ⟨filled, counted⟩
      · exact kept.variables_counted entry there
  variables_tidy := by
    intro entry member
    rw [Store.replaceVariables] at member
    split at member
    · exact kept.variables_tidy entry (Table.mem_erase.mp member).1
    · rcases Table.mem_insert kept.variables_distinct member with rfl | ⟨there, -⟩
      · exact tidy
      · exact kept.variables_tidy entry there

theorem deleteTry (kept : store.Integrity) (caseId tryNo : Int) :
    (store.deleteTry caseId tryNo).2.Integrity := by
  rw [Store.deleteTry]
  split
  · exact
      { cases_distinct := kept.cases_distinct
        tries_distinct := kept.tries_distinct.erase _
        variables_distinct := kept.variables_distinct.erase _
        case_filed := kept.case_filed
        try_filed := fun entry member => kept.try_filed entry (Table.mem_erase.mp member).1
        try_counted := fun entry member => kept.try_counted entry (Table.mem_erase.mp member).1
        variables_counted := fun entry member =>
          kept.variables_counted entry (Table.mem_erase.mp member).1
        variables_tidy := fun entry member =>
          kept.variables_tidy entry (Table.mem_erase.mp member).1 }
  · exact kept

end Integrity

/-! ## Operations -/

variable [Platform]

/-- The number of a new try is none that its case has given out. -/
theorem Counted.ne_draft {store : Store} {caseId tryNo : Int} (counted : store.Counted caseId tryNo)
    {config : Config} {c : Int} {submission : Submission} (draft : Draft config store c submission) :
    (c, draft.tryNo) ≠ (caseId, tryNo) := by
  intro same
  obtain ⟨rfl, numbered⟩ := Prod.mk.inj same
  obtain ⟨owner, found, -, within⟩ := counted
  cases found.symm.trans draft.owner_found
  rw [Draft.tryNo] at numbered
  omega

namespace Integrity

variable {store : Store}

section

variable {config : Config} {caseId : Int} {submission : Submission}

/-- The number of a new try is one that its case has then given out. -/
theorem counted_draft (kept : store.Integrity) (draft : Draft config store caseId submission) :
    draft.counted.Counted caseId draft.tryNo := by
  have positive := (kept.findCase_filed draft.owner_found).2.2
  exact ⟨_, Table.get?_insert_self caseId _ store.cases, Int.le_add_of_nonneg_left positive,
    Int.le_refl _⟩

/-- Variables are written for a try whose number its case has just counted. -/
theorem orphaned (kept : store.Integrity) (draft : Draft config store caseId submission) :
    draft.orphaned.Integrity :=
  (kept.count draft.owner_found).replaceVariables (kept.counted_draft draft)
    (Variables.tidy_ofEntries draft.vars_accepted).1

/-- A try whose number its case has just counted is stored with its variables. -/
theorem stored (kept : store.Integrity) (draft : Draft config store caseId submission)
    (args : Json) : (draft.stored args).Integrity :=
  (kept.orphaned draft).putTry (t := draft.finished args) (kept.counted_draft draft)

end

theorem effect {config : Config} {command : Command} {before after : Session}
    (does : Effect config before command after) (kept : before.store.Integrity) :
    after.store.Integrity := by
  cases does with
  | nothing => exact kept
  | caseMade name => exact kept.createCase name
  | numberLost draft => exact kept.count draft.owner_found
  | tryLost draft unsaved => exact kept.orphaned draft
  | tryMade draft args compiled fits pending => exact kept.stored draft args
  | @tryNamed _ caseId tryNo t found name =>
    exact kept.putTry (t := { t with name }) (kept.try_counted _ (Table.mem_of_get? found))
  | tryDeleted caseId tryNo => exact kept.deleteTry caseId tryNo
  | @tryTuned _ caseId tryNo t found vars tidy args compiled fits =>
    have replaced := kept.replaceVariables (kept.counted_of_findTry found) tidy
    exact replaced.putTry (t := { t with args }) (kept.try_counted _ (Table.mem_of_get? found))
  | tryStale _ found tidy compiled deep =>
    exact kept.replaceVariables (kept.counted_of_findTry found) tidy

theorem runAll {session : Session} (kept : session.store.Integrity) (config : Config)
    (commands : List Command) : (Command.runAll config commands session).2.store.Integrity :=
  runAll_induction (motive := fun session => session.store.Integrity) config
    (fun _ _ _ does kept => kept.effect does) commands kept

end Integrity

end SearchTuning.Store

import Mathlib.Data.List.Dedup
import SearchTuning.Proofs.Store.Counting

/-!
# What the store answers, by what it was called with

A call to the store can be answered from the calls before it alone, without any tables: the number
of a new case is how many were made, a try is the one that was saved last, unless it has been
deleted since, and so on.  The tables hold just that, whatever is called in whatever order.  A call
that is to save a try with too many levels fails, and then nothing is saved.
-/

namespace SearchTuning.Store

/-- A call with its answer. -/
structure Record where
  call : Call
  answer : call.Answer

namespace Record

/-- Whether a case was made. -/
def makesCase : Record → Bool
  | ⟨.createCase _, _⟩ => true
  | _ => false

/-- The case with a number, if it was made. -/
def made? (caseId : Int) : Record → Option Case
  | ⟨.createCase _, made⟩ => if made.id = caseId then some made else none
  | _ => none

/-- Whether a try was to be counted in a case. -/
def counts (caseId : Int) : Record → Bool
  | ⟨.incrementLastTry c, _⟩ => c = caseId
  | _ => false

/-- The try with a case and a number, if it was to be saved and that did not fail. -/
def saved? (key : Int × Int) : Record → Option Try
  | ⟨.saveTry t, .ok ()⟩ => if (t.caseId, t.tryNo) = key then some t else none
  | _ => none

/-- Whether the try with a case and a number was there and was deleted. -/
def deletes (key : Int × Int) : Record → Bool
  | ⟨.deleteTry c n, deleted⟩ => deleted && (c, n) = key
  | _ => false

/-- The case and the number for which variables were written. -/
def writtenKey? : Record → Option (Int × Int)
  | ⟨.replaceVariables c n _, _⟩ => some (c, n)
  | _ => none

/-- The variables that were written for a case and a number. -/
def written? (key : Int × Int) : Record → Option VariableMap
  | ⟨.replaceVariables c n vars, _⟩ => if (c, n) = key then some vars else none
  | _ => none

end Record

/-- Calls with their answers, the latest first. -/
abbrev History := List Record

namespace History

variable (history : History)

/-- How many cases were made. -/
def casesMade : Nat := history.countP Record.makesCase

/-- How many tries were counted in a case since it was made. -/
def counted (caseId : Int) : Nat :=
  (history.takeWhile fun record => (record.made? caseId).isNone).countP (Record.counts caseId)

/-- The case with a number, as it was made but for its count. -/
def case? (caseId : Int) : Option Case :=
  (history.findSome? (Record.made? caseId)).map fun made =>
    { made with lastTry := history.counted caseId }

/-- The calls since a try was last deleted. -/
def sinceDeleted (key : Int × Int) : History :=
  history.takeWhile fun record => !record.deletes key

/-- The try that was last saved, unless it was deleted. -/
def storedTry? (key : Int × Int) : Option Try :=
  (history.sinceDeleted key).findSome? (Record.saved? key)

/-- The variables that were last written for a try, unless it was deleted. -/
def vars (key : Int × Int) : VariableMap :=
  ((history.sinceDeleted key).findSome? (Record.written? key)).getD []

/-- All for which variables were written, each once. -/
def writtenKeys : List (Int × Int) := (history.filterMap Record.writtenKey?).dedup

/-- What a call must answer after the calls of a history. -/
def Answers [Platform] : (call : Call) → call.Answer → Prop
  | .createCase name, made => made = ⟨history.casesMade + 1, name, 0⟩
  | .getCase caseId, found => found = history.case? caseId
  | .incrementLastTry caseId, counted =>
      counted = (history.case? caseId).map fun found => found.lastTry + 1
  | .listTries caseId, tries =>
      (tries.map Try.tryNo).Pairwise (· < ·) ∧
      ∀ t, t ∈ tries ↔ t.caseId = caseId ∧ history.storedTry? (caseId, t.tryNo) = some t
  | .getTry caseId tryNo, found => found = history.storedTry? (caseId, tryNo)
  | .saveTry t, saved =>
      saved = if t.args.levels ≤ Platform.copying then .ok () else .error .outOfStack
  | .deleteTry caseId tryNo, deleted => deleted = (history.storedTry? (caseId, tryNo)).isSome
  | .getVariables caseId tryNo, vars => vars = history.vars (caseId, tryNo)
  | .replaceVariables .., _ => True
  | .countVariables, n =>
      n = (history.writtenKeys.map fun key => (history.vars key).length).sum

/-! ## One call more -/

variable {history} (record : Record)

theorem case?_cons_of_made {caseId : Int} {made : Case} (here : record.made? caseId = some made) :
    case? (record :: history) caseId = some { made with lastTry := 0 } := by
  simp [case?, counted, here]

theorem case?_cons_of_counts {caseId : Int} (other : record.made? caseId = none)
    (here : record.counts caseId = true) :
    case? (record :: history) caseId =
      (case? history caseId).map fun found => { found with lastTry := found.lastTry + 1 } := by
  simp [case?, counted, here, other, Function.comp_def]

theorem case?_cons_of_not {caseId : Int} (other : record.made? caseId = none)
    (uncounted : record.counts caseId = false) :
    case? (record :: history) caseId = case? history caseId := by
  simp [case?, counted, other, uncounted]

theorem storedTry?_cons (key : Int × Int) :
    storedTry? (record :: history) key =
      if record.deletes key then none else (record.saved? key).or (storedTry? history key) := by
  cases gone : record.deletes key <;> cases kept : record.saved? key <;>
    simp [storedTry?, sinceDeleted, gone, kept]

theorem vars_cons (key : Int × Int) :
    vars (record :: history) key =
      if record.deletes key then [] else (record.written? key).getD (vars history key) := by
  cases gone : record.deletes key <;> cases kept : record.written? key <;>
    simp [vars, sinceDeleted, gone, kept]

theorem mem_writtenKeys_cons {key : Int × Int} :
    key ∈ writtenKeys (record :: history) ↔
      record.writtenKey? = some key ∨ key ∈ writtenKeys history := by
  simp [writtenKeys]

end History

/-! ## The tables -/

/-- The tables hold what the calls of a history come to. -/
structure Mirrors (store : Store) (history : History) : Prop where
  next_eq : store.nextCaseId = history.casesMade + 1
  case_eq : ∀ caseId, store.findCase caseId = history.case? caseId
  try_eq : ∀ caseId tryNo, store.findTry caseId tryNo = history.storedTry? (caseId, tryNo)
  vars_eq : ∀ caseId tryNo,
    store.variablesOf caseId tryNo = history.vars (caseId, tryNo)
  keyed : store.Keyed
  variables_distinct : Table.Distinct store.variableMaps
  /-- Variables are held only where some were written. -/
  variables_written : ∀ entry ∈ store.variableMaps, entry.1 ∈ history.writtenKeys

section

variable [Platform]

namespace Mirrors

variable {store : Store} {history : History} (mirrors : store.Mirrors history)

include mirrors

/-- Every call is answered as the history says. -/
theorem answers (call : Call) : history.Answers call (store.answer call).1 := by
  cases call with
  | createCase name => exact congrArg (fun n => Case.mk n name 0) mirrors.next_eq
  | getCase c => exact mirrors.case_eq c
  | incrementLastTry c =>
    change (store.incrementLastTry c).1 = (history.case? c).map _
    rw [← mirrors.case_eq c, incrementLastTry]
    cases store.findCase c <;> rfl
  | listTries c =>
    refine ⟨mirrors.keyed.triesOf_ascending c, fun t => ?_⟩
    rw [← mirrors.try_eq c t.tryNo]
    constructor
    · intro listed
      have found := mirrors.keyed.mem_triesOf.mp listed
      exact ⟨(mirrors.keyed.findTry_filed found).1, found⟩
    · rintro ⟨-, found⟩
      exact mirrors.keyed.mem_triesOf.mpr found
  | getTry c n => exact mirrors.try_eq c n
  | saveTry t =>
    change (store.saveTry t).1 = _
    rw [saveTry]
    split <;> rfl
  | deleteTry c n =>
    change (store.deleteTry c n).1 = (history.storedTry? (c, n)).isSome
    rw [← mirrors.try_eq c n, deleted_eq_isSome]
  | getVariables c n => exact mirrors.vars_eq c n
  | replaceVariables c n vars => trivial
  | countVariables =>
    have summed := Table.sum_length_get? mirrors.variables_distinct (List.nodup_dedup _)
      mirrors.variables_written
    refine summed.symm.trans (congrArg List.sum (List.map_congr_left fun key _ => ?_))
    exact congrArg List.length (mirrors.vars_eq key.1 key.2)

/-! ## One call more, in the tables -/

theorem next_eq_answer (call : Call) :
    (store.answer call).2.nextCaseId =
      History.casesMade (⟨call, (store.answer call).1⟩ :: history) + 1 := by
  cases call with
  | createCase name =>
    rw [History.casesMade, List.countP_cons_of_pos rfl, Int.natCast_succ]
    exact congrArg (· + 1) mirrors.next_eq
  | incrementLastTry c => exact (nextCaseId_incrementLastTry store c).trans mirrors.next_eq
  | deleteTry c n => exact (nextCaseId_deleteTry store c n).trans mirrors.next_eq
  | saveTry t => exact (nextCaseId_saveTry store t).trans mirrors.next_eq
  | _ => exact mirrors.next_eq

theorem case_eq_answer (call : Call) (caseId : Int) :
    (store.answer call).2.findCase caseId =
      History.case? (⟨call, (store.answer call).1⟩ :: history) caseId := by
  cases call with
  | createCase name =>
    let record : Record := ⟨.createCase name, (store.createCase name).1⟩
    refine (findCase_createCase store name caseId).trans ?_
    by_cases here : store.nextCaseId = caseId
    · have made : record.made? caseId = some (store.createCase name).1 := if_pos here
      rw [if_pos here]
      exact (History.case?_cons_of_made record made).symm
    · have other : record.made? caseId = none := if_neg here
      rw [if_neg here, mirrors.case_eq]
      exact (History.case?_cons_of_not record other rfl).symm
  | incrementLastTry c =>
    let record : Record := ⟨.incrementLastTry c, (store.incrementLastTry c).1⟩
    refine (findCase_incrementLastTry store c caseId).trans ?_
    rw [mirrors.case_eq]
    by_cases here : c = caseId
    · have counts : record.counts caseId = true := decide_eq_true here
      rw [if_pos here]
      exact (History.case?_cons_of_counts record rfl counts).symm
    · have uncounted : record.counts caseId = false := decide_eq_false here
      rw [if_neg here]
      exact (History.case?_cons_of_not record rfl uncounted).symm
  | deleteTry c n =>
    rw [History.case?_cons_of_not _ rfl rfl, ← mirrors.case_eq]
    exact congrArg (Table.get? caseId) (deleteTry_cases store c n)
  | saveTry t =>
    rw [History.case?_cons_of_not _ rfl rfl, ← mirrors.case_eq]
    exact congrArg (Table.get? caseId) (saveTry_cases store t)
  | _ =>
    rw [History.case?_cons_of_not _ rfl rfl]
    exact mirrors.case_eq caseId

theorem try_eq_answer (call : Call) (caseId tryNo : Int) :
    (store.answer call).2.findTry caseId tryNo =
      History.storedTry? (⟨call, (store.answer call).1⟩ :: history) (caseId, tryNo) := by
  rw [History.storedTry?_cons]
  cases call with
  | saveTry t =>
    rw [answer, saveTry, ← mirrors.try_eq]
    split
    · refine (Table.get?_insert (t.caseId, t.tryNo) (caseId, tryNo) t store.tries).trans ?_
      change _ = Option.or (if (t.caseId, t.tryNo) = (caseId, tryNo) then some t else none) _
      split <;> rfl
    · rfl
  | deleteTry c n =>
    change (store.deleteTry c n).2.findTry caseId tryNo =
      if ((store.deleteTry c n).1 && decide ((c, n) = (caseId, tryNo))) = true then none
      else history.storedTry? (caseId, tryNo)
    rw [← mirrors.try_eq, findTry_deleteTry, deleted_eq_isSome]
    simp only [Bool.and_eq_true, decide_eq_true_eq]
    by_cases same : (c, n) = (caseId, tryNo)
    · -- A try that was not there is not found afterwards either.
      obtain ⟨rfl, rfl⟩ := Prod.mk.inj same
      cases found : store.findTry c n <;> simp
    · rw [if_neg same, if_neg fun both => same both.2]
  | incrementLastTry c =>
    exact (findTry_incrementLastTry store c caseId tryNo).trans (mirrors.try_eq caseId tryNo)
  | _ => exact mirrors.try_eq caseId tryNo

theorem vars_eq_answer (call : Call) (caseId tryNo : Int) :
    (store.answer call).2.variablesOf caseId tryNo =
      History.vars (⟨call, (store.answer call).1⟩ :: history) (caseId, tryNo) := by
  rw [History.vars_cons]
  cases call with
  | replaceVariables c n vars =>
    refine (variablesOf_replaceVariables store c n vars caseId tryNo).trans ?_
    change _ = Option.getD (if (c, n) = (caseId, tryNo) then some vars else none) _
    rw [← mirrors.vars_eq]
    split <;> rfl
  | deleteTry c n =>
    change (store.deleteTry c n).2.variablesOf caseId tryNo =
      if ((store.deleteTry c n).1 && decide ((c, n) = (caseId, tryNo))) = true then []
      else history.vars (caseId, tryNo)
    rw [← mirrors.vars_eq, variablesOf_deleteTry]
    simp only [Bool.and_eq_true, decide_eq_true_eq]
  | incrementLastTry c =>
    exact (variablesOf_incrementLastTry store c caseId tryNo).trans (mirrors.vars_eq caseId tryNo)
  | saveTry t =>
    refine Eq.trans ?_ (mirrors.vars_eq caseId tryNo)
    exact congrArg (fun maps => (Table.get? (caseId, tryNo) maps).getD [])
      (variableMaps_saveTry store t)
  | _ => exact mirrors.vars_eq caseId tryNo

theorem variables_distinct_answer (call : Call) :
    Table.Distinct (store.answer call).2.variableMaps := by
  have distinct := mirrors.variables_distinct
  cases call with
  | replaceVariables c n vars =>
    rw [Store.answer, Store.replaceVariables]
    by_cases none : vars = []
    · simpa only [if_pos none] using distinct.erase _
    · simpa only [if_neg none] using distinct.insert _ _
  | deleteTry c n =>
    rw [Store.answer, Store.deleteTry]
    split
    · exact distinct.erase _
    · exact distinct
  | incrementLastTry c =>
    have same : (store.answer (.incrementLastTry c)).2.variableMaps = store.variableMaps :=
      variableMaps_incrementLastTry store c
    exact same ▸ distinct
  | saveTry t =>
    have same : (store.answer (.saveTry t)).2.variableMaps = store.variableMaps :=
      variableMaps_saveTry store t
    exact same ▸ distinct
  | _ => exact distinct

theorem variables_written_answer (call : Call) :
    ∀ entry ∈ (store.answer call).2.variableMaps,
      entry.1 ∈ History.writtenKeys (⟨call, (store.answer call).1⟩ :: history) := by
  have older : ∀ entry ∈ store.variableMaps,
      entry.1 ∈ History.writtenKeys (⟨call, (store.answer call).1⟩ :: history) := fun entry there =>
    (History.mem_writtenKeys_cons _).mpr (.inr (mirrors.variables_written entry there))
  cases call with
  | replaceVariables c n vars =>
    intro entry member
    rw [Store.answer, Store.replaceVariables] at member
    by_cases none : vars = []
    · simp only [if_pos none] at member
      exact older entry (Table.mem_erase.mp member).1
    · simp only [if_neg none] at member
      rcases Table.mem_insert mirrors.variables_distinct member with rfl | ⟨there, -⟩
      · exact (History.mem_writtenKeys_cons _).mpr (.inl rfl)
      · exact older entry there
  | deleteTry c n =>
    intro entry member
    rw [Store.answer, Store.deleteTry] at member
    split at member
    · exact older entry (Table.mem_erase.mp member).1
    · exact older entry member
  | incrementLastTry c =>
    intro entry member
    exact older entry (variableMaps_incrementLastTry store c ▸ member)
  | saveTry t =>
    intro entry member
    exact older entry (variableMaps_saveTry store t ▸ member)
  | _ => exact older

/-- What the tables hold after a call is what the history with the call comes to. -/
theorem answer (call : Call) :
    (store.answer call).2.Mirrors (⟨call, (store.answer call).1⟩ :: history) where
  next_eq := mirrors.next_eq_answer call
  case_eq := mirrors.case_eq_answer call
  try_eq := mirrors.try_eq_answer call
  vars_eq := mirrors.vars_eq_answer call
  keyed := mirrors.keyed.answer call
  variables_distinct := mirrors.variables_distinct_answer call
  variables_written := mirrors.variables_written_answer call

end Mirrors

/-! ## Runs -/

/-- Calls made one after the other, with the store after them. -/
def play : List Call → Store → History → Store × History
  | [], store, history => (store, history)
  | call :: calls, store, history =>
      let (answer, store) := store.answer call
      play calls store (⟨call, answer⟩ :: history)

theorem Mirrors.play {store : Store} {history : History} (mirrors : store.Mirrors history)
    (calls : List Call) :
    (Store.play calls store history).1.Mirrors (Store.play calls store history).2 := by
  induction calls generalizing store history with
  | nil => exact mirrors
  | cons call calls ih => exact ih (mirrors.answer call)

end

end SearchTuning.Store

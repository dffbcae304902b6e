import SearchTuning.Proofs.Interleaving.Grounds

/-!
# What one call does to the numbers of a case

A call changes the last number of a case only by taking the next one.  A number under which there is
no try stays without one, and its variables stay as they are, unless just there something is
written: deleting finds nothing under it.
-/

namespace SearchTuning

namespace Store

variable {store : Store}

/-- The last number that a case has given out. -/
def lastTryOf (caseId : Int) (store : Store) : Int :=
  match store.findCase caseId with
  | some found => found.lastTry
  | none => 0

theorem lastTryOf_of_findCase {caseId : Int} {found : Case}
    (there : store.findCase caseId = some found) : store.lastTryOf caseId = found.lastTry := by
  rw [lastTryOf, there]

/-- The next case has a number that no case has. -/
def NextIsNew (store : Store) : Prop :=
  ∀ caseId found, store.findCase caseId = some found → caseId < store.nextCaseId

theorem Integrity.nextIsNew (kept : store.Integrity) : store.NextIsNew :=
  fun _ _ there => (kept.findCase_filed there).2.1

/-- A number that is taken is the one after the last. -/
theorem number?_answer [Platform] {call : Call} {caseId n : Int}
    (number : Record.number? caseId ⟨call, (store.answer call).1⟩ = some n) :
    n = store.lastTryOf caseId + 1 := by
  cases call with
  | incrementLastTry c =>
    change Record.number? caseId ⟨.incrementLastTry c, (store.incrementLastTry c).1⟩ = some n at number
    rw [incrementLastTry] at number
    cases found : store.findCase c with
    | none =>
      rw [found] at number
      cases number
    | some owner =>
      rw [found] at number
      change (if c = caseId then some (owner.lastTry + 1) else none) = some n at number
      split at number
      · next same =>
        cases number
        rw [← same, lastTryOf_of_findCase found]
      · cases number
  | _ => cases number

theorem lastTryOf_incrementLastTry (store : Store) (c caseId : Int) :
    (store.incrementLastTry c).2.lastTryOf caseId =
      (Record.number? caseId ⟨.incrementLastTry c, (store.incrementLastTry c).1⟩).getD
        (store.lastTryOf caseId) := by
  have counted := findCase_incrementLastTry store c caseId
  rw [lastTryOf, counted, incrementLastTry]
  by_cases same : c = caseId
  · subst same
    rw [if_pos rfl]
    cases found : store.findCase c with
    | none => simp [lastTryOf, found, Record.number?]
    | some owner => simp [Record.number?]
  · rw [if_neg same]
    cases store.findCase c with
    | none => rfl
    | some owner => simp [lastTryOf, Record.number?, same]

/-- A call changes the last number of a case only by taking one. -/
theorem lastTryOf_answer [Platform] (new : store.NextIsNew) (call : Call) (caseId : Int) :
    (store.answer call).2.lastTryOf caseId =
      (Record.number? caseId ⟨call, (store.answer call).1⟩).getD (store.lastTryOf caseId) := by
  cases call with
  | createCase name =>
    change (store.createCase name).2.lastTryOf caseId = store.lastTryOf caseId
    have made := findCase_createCase store name caseId
    by_cases same : store.nextCaseId = caseId
    · have absent : store.findCase caseId = none := by
        cases found : store.findCase caseId with
        | none => rfl
        | some owner => exact absurd (new caseId owner found) (by omega)
      rw [if_pos same] at made
      rw [lastTryOf_of_findCase made, lastTryOf, absent]
      rfl
    · rw [if_neg same] at made
      rw [lastTryOf, made]
      rfl
  | incrementLastTry c => exact lastTryOf_incrementLastTry store c caseId
  | deleteTry c n =>
    have same : (store.deleteTry c n).2.findCase caseId = store.findCase caseId :=
      congrArg (Table.get? caseId) (deleteTry_cases store c n)
    change (store.deleteTry c n).2.lastTryOf caseId = store.lastTryOf caseId
    rw [lastTryOf, same]
    rfl
  | saveTry t =>
    have same : (store.saveTry t).2.findCase caseId = store.findCase caseId :=
      congrArg (Table.get? caseId) (saveTry_cases store t)
    change (store.saveTry t).2.lastTryOf caseId = store.lastTryOf caseId
    rw [lastTryOf, same]
    rfl
  | _ => rfl

theorem lastTryOf_le_answer [Platform] (new : store.NextIsNew) (call : Call) (caseId : Int) :
    store.lastTryOf caseId ≤ (store.answer call).2.lastTryOf caseId := by
  rw [lastTryOf_answer new]
  cases number : Record.number? caseId ⟨call, (store.answer call).1⟩ with
  | none => exact Int.le_refl _
  | some n =>
    rw [number?_answer number]
    exact Int.le_add_of_nonneg_right (by decide)

theorem NextIsNew.answer [Platform] (new : store.NextIsNew) (call : Call) :
    (store.answer call).2.NextIsNew := by
  cases call with
  | createCase name =>
    intro caseId found there
    change (store.createCase name).2.findCase caseId = some found at there
    change caseId < store.nextCaseId + 1
    rw [findCase_createCase] at there
    split at there
    · next same => omega
    · have given := new caseId found there
      omega
  | incrementLastTry c =>
    intro caseId found there
    change (store.incrementLastTry c).2.findCase caseId = some found at there
    change caseId < (store.incrementLastTry c).2.nextCaseId
    rw [nextCaseId_incrementLastTry]
    rw [findCase_incrementLastTry] at there
    split at there
    · obtain ⟨owner, before, -⟩ := Option.map_eq_some_iff.mp there
      exact new caseId owner before
    · exact new caseId found there
  | deleteTry c n =>
    intro caseId found there
    change (store.deleteTry c n).2.findCase caseId = some found at there
    change caseId < (store.deleteTry c n).2.nextCaseId
    rw [findCase, deleteTry_cases] at there
    rw [nextCaseId_deleteTry]
    exact new caseId found there
  | saveTry t =>
    intro caseId found there
    change (store.saveTry t).2.findCase caseId = some found at there
    change caseId < (store.saveTry t).2.nextCaseId
    rw [findCase, saveTry_cases] at there
    rw [nextCaseId_saveTry]
    exact new caseId found there
  | _ => exact new

/-- A number without a try stays without one, unless a try is written under it. -/
theorem findTry_answer_of_none [Platform] {call : Call} {caseId tryNo : Int}
    (vacant : store.findTry caseId tryNo = none)
    (spared : call.writtenKey? ≠ some (caseId, tryNo)) :
    (store.answer call).2.findTry caseId tryNo = none := by
  cases call with
  | saveTry t =>
    have other : (t.caseId, t.tryNo) ≠ (caseId, tryNo) := fun same => spared (congrArg some same)
    exact (findTry_saveTry_of_ne store other).trans vacant
  | incrementLastTry c => exact (findTry_incrementLastTry store c caseId tryNo).trans vacant
  | deleteTry c n =>
    change (store.deleteTry c n).2.findTry caseId tryNo = none
    rw [findTry_deleteTry, vacant, ite_self]
  | _ => exact vacant

/-- The variables of a number without a try stay as they are, unless others are written. -/
theorem variablesOf_answer_of_none [Platform] {call : Call} {caseId tryNo : Int}
    (vacant : store.findTry caseId tryNo = none)
    (spared : call.writtenKey? ≠ some (caseId, tryNo)) :
    (store.answer call).2.variablesOf caseId tryNo = store.variablesOf caseId tryNo := by
  cases call with
  | replaceVariables c n vars =>
    have other : (c, n) ≠ (caseId, tryNo) := fun same => spared (congrArg some same)
    exact (variablesOf_replaceVariables store c n vars caseId tryNo).trans (if_neg other)
  | incrementLastTry c => exact variablesOf_incrementLastTry store c caseId tryNo
  | deleteTry c n =>
    have other : ¬((store.deleteTry c n).1 = true ∧ (c, n) = (caseId, tryNo)) := by
      rintro ⟨deleted, same⟩
      obtain ⟨rfl, rfl⟩ := Prod.mk.inj same
      rw [deleted_eq_isSome, vacant] at deleted
      cases deleted
    exact (variablesOf_deleteTry store c n caseId tryNo).trans (if_neg other)
  | saveTry t =>
    exact congrArg (fun maps => (Table.get? (caseId, tryNo) maps).getD [])
      (variableMaps_saveTry store t)
  | _ => rfl

/-- What becomes known by a call is a try that is there, or a number that it takes. -/
theorem known_answer [Platform] (keyed : store.Keyed) {call : Call} {key : Int × Int}
    (known : key ∈ Record.known ⟨call, (store.answer call).1⟩) :
    (∃ t, store.findTry key.1 key.2 = some t) ∨
    Record.number? key.1 ⟨call, (store.answer call).1⟩ = some key.2 := by
  cases call with
  | getTry c n =>
    change key ∈ Record.known ⟨.getTry c n, store.findTry c n⟩ at known
    cases found : store.findTry c n with
    | none =>
      rw [found] at known
      cases known
    | some t =>
      obtain ⟨rfl, rfl⟩ := keyed.findTry_filed found
      rw [found] at known
      have same : key = (t.caseId, t.tryNo) := by simpa [Record.known] using known
      exact .inl ⟨t, by rw [same, found]⟩
  | incrementLastTry c =>
    change key ∈ Record.known ⟨.incrementLastTry c, (store.incrementLastTry c).1⟩ at known
    change _ ∨ Record.number? key.1 ⟨.incrementLastTry c, (store.incrementLastTry c).1⟩ = some key.2
    cases counted : (store.incrementLastTry c).1 with
    | none =>
      rw [counted] at known
      cases known
    | some n =>
      rw [counted] at known
      have same : key = (c, n) := List.mem_singleton.mp known
      rw [same]
      exact .inr (if_pos rfl)
  | _ => cases known

end Store

end SearchTuning

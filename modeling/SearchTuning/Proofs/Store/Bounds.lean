import SearchTuning.Proofs.Store.Numbering

/-!
# How far numbers can have come

An operation makes one case at most, and counts one try at most.  So no number that has been given
out is greater than the number of operations there have been.
-/

namespace SearchTuning.Store

open Lifecycle

/-- The numbers that so many operations can have given out. -/
structure Bounded (k : Nat) (store : Store) : Prop where
  first_case : 1 ≤ store.nextCaseId
  next_case : store.nextCaseId ≤ k + 1
  case_bounded : ∀ entry ∈ store.cases, 1 ≤ entry.1 ∧ entry.2.lastTry ≤ k

theorem bounded_empty : empty.Bounded 0 where
  first_case := Int.le_refl 1
  next_case := Int.le_refl 1
  case_bounded := by simp [empty]

namespace Bounded

variable {k : Nat} {store : Store}

theorem mono (bounded : store.Bounded k) : store.Bounded (k + 1) where
  first_case := bounded.first_case
  next_case := by
    have before := bounded.next_case
    omega
  case_bounded := by
    intro entry member
    have before := bounded.case_bounded entry member
    omega

/-- The tables of tries and variables do not matter. -/
theorem of_cases (bounded : store.Bounded k) {tries : Table (Int × Int) Try}
    {variableMaps : Table (Int × Int) VariableMap} :
    { store with tries, variableMaps : Store }.Bounded k :=
  ⟨bounded.first_case, bounded.next_case, bounded.case_bounded⟩

theorem createCase (bounded : store.Bounded k) (distinct : Table.Distinct store.cases)
    (name : Text) : (store.createCase name).2.Bounded (k + 1) where
  first_case := Int.le_trans bounded.first_case (Int.le_of_lt (Int.lt_succ _))
  next_case := by
    have before := bounded.next_case
    change store.nextCaseId + 1 ≤ _
    omega
  case_bounded := by
    intro entry member
    rcases Table.mem_insert distinct member with rfl | ⟨there, -⟩
    · exact ⟨bounded.first_case, Int.natCast_nonneg (k + 1)⟩
    · exact bounded.mono.case_bounded entry there

theorem count (bounded : store.Bounded k) (distinct : Table.Distinct store.cases) {caseId : Int}
    {owner : Case} (found : store.findCase caseId = some owner) :
    { store with
      cases := Table.insert caseId { owner with lastTry := owner.lastTry + 1 } store.cases :
      Store }.Bounded (k + 1) where
  first_case := bounded.first_case
  next_case := bounded.mono.next_case
  case_bounded := by
    intro entry member
    rcases Table.mem_insert distinct member with rfl | ⟨there, -⟩
    · obtain ⟨first, last⟩ := bounded.case_bounded _ (Table.mem_of_get? found)
      have last : owner.lastTry ≤ k := last
      refine ⟨first, ?_⟩
      change owner.lastTry + 1 ≤ _
      omega
    · exact bounded.mono.case_bounded entry there

/-- An operation raises no number by more than one. -/
theorem effect [Platform] {config : Config} {command : Command} {before after : Session}
    (does : Effect config before command after) (kept : before.store.Integrity)
    (bounded : before.store.Bounded k) : after.store.Bounded (k + 1) := by
  cases does with
  | nothing => exact bounded.mono
  | caseMade name => exact bounded.createCase kept.cases_distinct name
  | numberLost draft => exact bounded.count kept.cases_distinct draft.owner_found
  | tryLost draft unsaved => exact (bounded.count kept.cases_distinct draft.owner_found).of_cases
  | tryMade draft args compiled fits pending =>
    exact (bounded.count kept.cases_distinct draft.owner_found).of_cases
  | tryNamed => exact bounded.mono.of_cases
  | tryDeleted caseId tryNo =>
    rw [Store.deleteTry]
    split <;> exact bounded.mono.of_cases
  | tryTuned => exact bounded.mono.of_cases
  | tryStale => exact bounded.mono.of_cases

theorem runAll [Platform] {session : Session} (bounded : session.store.Bounded k)
    (kept : session.store.Integrity) (config : Config) (commands : List Command) :
    (Command.runAll config commands session).2.store.Bounded (k + commands.length) := by
  induction commands generalizing session k with
  | nil => exact bounded
  | cons command commands ih =>
    have does := effect_run config session command
    have later := ih (bounded.effect does kept) (kept.effect does)
    rw [List.length_cons, Nat.add_comm commands.length, ← Nat.add_assoc]
    exact later

/-! ## Numbers that are stored -/

/-- The numbers under which a try is stored. -/
theorem of_findTry (bounded : store.Bounded k) (kept : store.Integrity) {caseId tryNo : Int}
    {t : Try} (found : store.findTry caseId tryNo = some t) :
    (1 ≤ caseId ∧ caseId ≤ k) ∧ 1 ≤ tryNo ∧ tryNo ≤ k := by
  obtain ⟨owner, owned, positive, counted⟩ := kept.counted_of_findTry found
  obtain ⟨first, last⟩ := bounded.case_bounded _ (Table.mem_of_get? owned)
  have given := (kept.findCase_filed owned).2.1
  have next := bounded.next_case
  have last : owner.lastTry ≤ k := last
  exact ⟨⟨first, by omega⟩, positive, by omega⟩

end Bounded

theorem bounded_reached [Platform] (config : Config) (commands : List Command) :
    (Command.reached config commands).store.Bounded commands.length := by
  have start : Session.start.store.Bounded 0 := bounded_empty
  have bounded := start.runAll integrity_empty config commands
  rw [Nat.zero_add] at bounded
  exact bounded

end SearchTuning.Store

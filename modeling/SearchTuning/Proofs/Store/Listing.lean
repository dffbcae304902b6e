import SearchTuning.Proofs.Store.Integrity
import SearchTuning.Proofs.Text.Order

/-!
# The tries that a case lists

A try stands under its case and its number.  So a case lists each of its tries once, in the strict
order of their numbers, whatever calls have been made to the store.
-/

namespace SearchTuning.Store

theorem triesOf_perm (store : Store) (caseId : Int) :
    (store.triesOf caseId).Perm
      ((store.tries.filter fun entry => entry.1.1 = caseId).map Prod.snd) :=
  sortBy_perm _ _

namespace Keyed

variable {store : Store} (keyed : store.Keyed)

include keyed

theorem putTry (t : Try) : (store.putTry t).Keyed where
  distinct := keyed.distinct.insert _ _
  filed := by
    intro entry member
    rcases Table.mem_insert keyed.distinct member with rfl | ⟨there, -⟩
    · rfl
    · exact keyed.filed entry there

theorem deleteTry (caseId tryNo : Int) : (store.deleteTry caseId tryNo).2.Keyed := by
  rw [Store.deleteTry]
  split
  · exact ⟨keyed.distinct.erase _, fun entry member => keyed.filed entry (Table.mem_erase.mp member).1⟩
  · exact keyed

/-- Whatever is called, tries stay under their numbers. -/
theorem answer [Platform] (call : Call) : (store.answer call).2.Keyed := by
  cases call with
  | saveTry t =>
    rw [Store.answer, saveTry]
    split
    · exact keyed.putTry t
    · exact keyed
  | deleteTry c n => exact keyed.deleteTry c n
  | incrementLastTry c =>
    have same : (store.answer (.incrementLastTry c)).2.tries = store.tries :=
      tries_incrementLastTry store c
    exact ⟨same ▸ keyed.distinct, same ▸ keyed.filed⟩
  | _ => exact ⟨keyed.distinct, keyed.filed⟩

/-- The tries that a case lists are those that are found in it. -/
theorem mem_triesOf {caseId : Int} {t : Try} :
    t ∈ store.triesOf caseId ↔ store.findTry caseId t.tryNo = some t := by
  rw [(triesOf_perm store caseId).mem_iff, List.mem_map]
  constructor
  · rintro ⟨⟨key, stored⟩, chosen, rfl⟩
    obtain ⟨there, owned⟩ := List.mem_filter.mp chosen
    have filed : key = (stored.caseId, stored.tryNo) := keyed.filed _ there
    have owner : key.1 = caseId := of_decide_eq_true owned
    have here : key = (caseId, stored.tryNo) := by rw [← owner, filed]
    rw [here] at there
    exact Table.get?_of_mem keyed.distinct there
  · intro found
    exact ⟨_, List.mem_filter.mpr ⟨Table.mem_of_get? found, by simp⟩, rfl⟩

theorem nodup_triesOf (caseId : Int) : ((store.triesOf caseId).map Try.tryNo).Nodup := by
  apply List.Nodup.of_map (fun n => (caseId, n))
  have filed : ∀ entry ∈ store.tries.filter (fun entry => entry.1.1 = caseId),
      (caseId, entry.2.tryNo) = entry.1 := by
    intro entry member
    obtain ⟨there, owned⟩ := List.mem_filter.mp member
    have owner : entry.1.1 = caseId := of_decide_eq_true owned
    have key_eq := keyed.filed entry there
    rw [key_eq] at owner ⊢
    rw [← owner]
  rw [List.map_map, ((triesOf_perm store caseId).map _).nodup_iff, List.map_map]
  have keys_eq : _ = (store.tries.filter fun entry => entry.1.1 = caseId).map Prod.fst :=
    List.map_congr_left filed
  exact keys_eq ▸ keyed.distinct.sublist (List.filter_sublist.map Prod.fst)

/-- The tries of a case are listed in the strict order of their numbers. -/
theorem triesOf_ascending (caseId : Int) :
    ((store.triesOf caseId).map Try.tryNo).Pairwise (· < ·) := by
  have sorted : (store.triesOf caseId).Pairwise fun s t => decide (s.tryNo ≤ t.tryNo) = true := by
    apply pairwise_sortBy
    · intro s t
      simpa using Int.le_total s.tryNo t.tryNo
    · intro s t u first second
      simp only [decide_eq_true_eq] at first second ⊢
      exact Int.le_trans first second
  have ordered : ((store.triesOf caseId).map Try.tryNo).Pairwise (· ≤ ·) :=
    List.pairwise_map.mpr (sorted.imp of_decide_eq_true)
  exact (ordered.and (keyed.nodup_triesOf caseId)).imp fun both => by omega

end Keyed

end SearchTuning.Store

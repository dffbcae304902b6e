import Mathlib.Algebra.BigOperators.Group.List.Basic
import Mathlib.Algebra.GroupWithZero.Nat
import Mathlib.Data.List.Perm.Basic
import SearchTuning.Proofs.Store.Listing

/-!
# Counting variables

The tries of all cases are all tries that are stored, each once.  So what is counted over the table
of variables is what is held by the tries of all cases together, and what stands under numbers
without a try.
-/

namespace SearchTuning

namespace Table

variable {κ ν α : Type} [DecidableEq κ]

/-- Items told apart by keys, of which none comes twice and none is missing, are all the items. -/
theorem flatMap_filter_perm {keys : List κ} (distinct : keys.Nodup) {items : List α} {key : α → κ}
    (covered : ∀ item ∈ items, key item ∈ keys) :
    (keys.flatMap fun k => items.filter fun item => key item = k).Perm items := by
  induction keys generalizing items with
  | nil =>
    cases items with
    | nil => exact .refl _
    | cons item items => exact absurd (covered item List.mem_cons_self) List.not_mem_nil
  | cons k keys ih =>
    obtain ⟨absent, distinct⟩ := List.nodup_cons.mp distinct
    have others : ∀ item ∈ items.filter (fun item => !decide (key item = k)), key item ∈ keys := by
      intro item member
      obtain ⟨there, other⟩ := List.mem_filter.mp member
      exact (List.mem_cons.mp (covered item there)).resolve_left (by simpa using other)
    have same : ∀ j ∈ keys, (items.filter fun item => key item = j) =
        (items.filter fun item => !decide (key item = k)).filter fun item => key item = j := by
      intro j member
      rw [List.filter_filter]
      refine List.filter_congr fun item _ => ?_
      by_cases here : key item = j
      · have other : j ≠ k := fun eq => absent (eq ▸ member)
        simp [here, other]
      · simp [here]
    rw [List.flatMap_cons, List.flatMap_congr same]
    exact ((ih distinct others).append_left _).trans (List.filter_append_perm _ items)

/-- A sum over keys in which only one counts. -/
theorem sum_map_single {keys : List κ} (distinct : keys.Nodup) {key : κ} (member : key ∈ keys)
    (n : Nat) : (keys.map fun k => if key = k then n else 0).sum = n := by
  induction keys with
  | nil => cases member
  | cons k keys ih =>
    obtain ⟨absent, distinct⟩ := List.nodup_cons.mp distinct
    rw [List.map_cons, List.sum_cons]
    rcases List.mem_cons.mp member with rfl | later
    · have none : ∀ j ∈ keys, (if key = j then n else 0) = 0 := by
        intro j there
        have other : key ≠ j := by
          rintro rfl
          exact absent there
        exact if_neg other
      rw [if_pos rfl, List.map_congr_left none]
      simp
    · have other : key ≠ k := fun eq => absent (eq ▸ later)
      rw [if_neg other, ih distinct later, Nat.zero_add]

/-- What the lists in a table hold, counted by keys that include all of the table's. -/
theorem sum_length_get? {table : Table κ (List α)} (distinct : Distinct table) {keys : List κ}
    (listed : keys.Nodup) (covered : ∀ entry ∈ table, entry.1 ∈ keys) :
    (keys.map fun key => ((get? key table).getD []).length).sum =
      table.foldr (fun entry n => entry.2.length + n) 0 := by
  induction table with
  | nil => simp [get?]
  | cons entry rest ih =>
    obtain ⟨k, list⟩ := entry
    rw [Distinct, List.map_cons, List.nodup_cons] at distinct
    have apart : ∀ key ∈ keys, ((get? key ((k, list) :: rest)).getD []).length =
        (if k = key then list.length else 0) + ((get? key rest).getD []).length := by
      intro key _
      rw [get?]
      split
      · next here =>
        have gone : get? key rest = none := by
          cases found : get? key rest with
          | none => rfl
          | some value =>
            subst here
            exact absurd (List.mem_map.mpr ⟨_, mem_of_get? found, rfl⟩) distinct.1
        simp [gone]
      · simp
    rw [List.map_congr_left apart, List.sum_map_add,
      sum_map_single listed (covered _ List.mem_cons_self),
      ih distinct.2 fun entry member => covered entry (List.mem_cons_of_mem _ member),
      List.foldr_cons]

omit [DecidableEq κ] in
/-- What the lists in a table hold, counted apart for two kinds of keys. -/
theorem foldr_length_onKeys (p : κ → Bool) (table : Table κ (List α)) :
    table.foldr (fun entry n => entry.2.length + n) 0 =
      (onKeys p table).foldr (fun entry n => entry.2.length + n) 0 +
        ((onKeys (fun key => !p key) table).map fun entry => entry.2.length).sum := by
  induction table with
  | nil => rfl
  | cons entry rest ih =>
    rw [List.foldr_cons, ih, onKeys_cons, onKeys_cons]
    cases p entry.1 with
    | true =>
      simp only [Bool.not_true, Bool.false_eq_true, if_false, if_true, List.foldr_cons]
      omega
    | false =>
      simp only [Bool.not_false, Bool.false_eq_true, if_false, if_true, List.map_cons,
        List.sum_cons]
      omega

end Table

namespace Store

open Lifecycle

/-- The tries of all cases are all tries, each once. -/
theorem flatMap_triesOf_perm {store : Store} (kept : store.Integrity) :
    (store.cases.flatMap fun entry => store.triesOf entry.1).Perm (store.tries.map Prod.snd) := by
  have covered : ∀ entry ∈ store.tries, entry.1.1 ∈ store.cases.map Prod.fst := by
    intro entry member
    obtain ⟨owner, found, -⟩ := kept.try_counted entry member
    rw [kept.try_filed entry member]
    exact List.mem_map.mpr ⟨_, Table.mem_of_get? found, rfl⟩
  have parted := (Table.flatMap_filter_perm kept.cases_distinct covered).map Prod.snd
  rw [List.map_flatMap, List.flatMap_map] at parted
  refine List.Perm.trans ?_ parted
  exact List.Perm.flatMap_left _ fun entry _ => triesOf_perm store entry.1

/-- The variables that stand under numbers without a try. -/
def orphans (store : Store) : Table (Int × Int) VariableMap :=
  Table.onKeys (fun key => !Table.has key store.tries) store.variableMaps

/-- The count of variables is the sum over all tries of all cases, and over what has no try. -/
theorem countVariables_eq_sum {store : Store} (kept : store.Integrity) :
    store.countVariables =
      ((store.cases.flatMap fun entry => store.triesOf entry.1).map fun t =>
        (store.variablesOf t.caseId t.tryNo).length).sum +
      (store.orphans.map fun entry => entry.2.length).sum := by
  let tried : Int × Int → Bool := fun key => Table.has key store.tries
  let owned := Table.onKeys tried store.variableMaps
  have distinct : Table.Distinct owned :=
    kept.variables_distinct.sublist (List.filter_sublist.map Prod.fst)
  have covered : ∀ entry ∈ owned, entry.1 ∈ store.tries.map Prod.fst := by
    intro entry member
    obtain ⟨t, found⟩ := Option.isSome_iff_exists.mp (List.mem_filter.mp member).2
    exact List.mem_map.mpr ⟨_, Table.mem_of_get? found, rfl⟩
  have filed : ∀ entry ∈ store.tries,
      (store.variablesOf entry.2.caseId entry.2.tryNo).length =
        ((Table.get? entry.1 owned).getD []).length := by
    intro entry member
    have there : tried entry.1 = true := by
      change Option.isSome _ = true
      rw [Table.get?_of_mem kept.tries_distinct member]
      rfl
    have same : Table.get? entry.1 owned = Table.get? entry.1 store.variableMaps :=
      Table.get?_onKeys there store.variableMaps
    rw [same, kept.try_filed entry member]
    rfl
  have summed := Table.sum_length_get? distinct kept.tries_distinct covered
  rw [List.map_map] at summed
  rw [((flatMap_triesOf_perm kept).map _).sum_eq, List.map_map, countVariables,
    Table.foldr_length_onKeys tried, ← summed]
  exact congrArg (· + _) (congrArg List.sum (List.map_congr_left fun entry member =>
    (filed entry member).symm))

end Store

end SearchTuning

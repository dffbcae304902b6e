import Mathlib.Data.List.Induction
import SearchTuning.Proofs.Results
import SearchTuning.Proofs.Table
import SearchTuning.Proofs.Text.Order
import SearchTuning.Variables

/-!
# The order and the names of variables

Variables are only ever held in the strict order of their names, each of which is checked before it
comes in.
-/

namespace SearchTuning

/-! ## The order of names -/

namespace VariableMap

/-- The names are in strict order, so that none comes twice, and all of them are accepted. -/
structure Tidy (map : VariableMap) : Prop where
  ascending : (map.map Prod.fst).Pairwise Text.Before
  accepted : ∀ name ∈ map.map Prod.fst, VariableName.isValid name = true

theorem tidy_nil : Tidy [] := ⟨.nil, by simp⟩

theorem Tidy.distinct {map : VariableMap} (tidy : Tidy map) : Table.Distinct map :=
  tidy.ascending.imp And.right

theorem mem_names_set {name value k : Text} {map : VariableMap}
    (member : k ∈ (map.set name value).map Prod.fst) : k = name ∨ k ∈ map.map Prod.fst := by
  induction map with
  | nil => exact .inl (by simpa [set] using member)
  | cons entry rest ih =>
    obtain ⟨j, v⟩ := entry
    rw [set] at member
    split at member
    · exact .inr member
    split at member
    · exact List.mem_cons.mp member
    · rw [List.map_cons, List.mem_cons] at member ⊢
      rcases member with here | later
      · exact .inr (.inl here)
      · exact (ih later).imp_right .inr

theorem ascending_set {map : VariableMap} (ascending : (map.map Prod.fst).Pairwise Text.Before)
    (name value : Text) : ((map.set name value).map Prod.fst).Pairwise Text.Before := by
  induction map with
  | nil => exact List.pairwise_singleton _ _
  | cons entry rest ih =>
    obtain ⟨j, v⟩ := entry
    have ordered := List.pairwise_cons.mp ascending
    rw [set]
    split
    · exact ascending
    next other =>
    split
    · next front =>
      have before : Text.Before name j := ⟨front, Ne.symm other⟩
      refine List.pairwise_cons.mpr ⟨?_, ascending⟩
      intro k member
      rcases List.mem_cons.mp member with rfl | later
      · exact before
      · exact before.trans (ordered.1 k later)
    · next back =>
      refine List.pairwise_cons.mpr ⟨?_, ih ordered.2⟩
      intro k member
      rcases mem_names_set member with rfl | later
      · exact Text.before_of_not_le back
      · exact ordered.1 k later

theorem Tidy.set {map : VariableMap} (tidy : Tidy map) {name : Text}
    (valid : VariableName.isValid name = true) (value : Text) : Tidy (map.set name value) where
  ascending := ascending_set tidy.ascending name value
  accepted := by
    intro k member
    rcases mem_names_set member with rfl | there
    · exact valid
    · exact tidy.accepted k there

theorem Tidy.erase {map : VariableMap} (tidy : Tidy map) (name : Text) :
    Tidy (Table.erase name map) where
  ascending := tidy.ascending.sublist ((Table.sublist_erase name map).map Prod.fst)
  accepted := fun k member =>
    tidy.accepted k (((Table.sublist_erase name map).map Prod.fst).subset member)

/-! ## Maps by what they give -/

theorem lookup_set (map : VariableMap) (name value k : Text) :
    (map.set name value).lookup k = if name = k then some value else map.lookup k := by
  induction map with
  | nil => rfl
  | cons entry rest ih =>
    obtain ⟨j, v⟩ := entry
    rw [lookup, lookup, set]
    by_cases here : j = name
    · subst here
      rw [if_pos rfl, Table.get?, Table.get?]
      split <;> rfl
    by_cases front : name.le j = true
    · rw [if_neg here, if_pos front, Table.get?]
    · rw [if_neg here, if_neg front, Table.get?, Table.get?]
      by_cases found : j = k
      · subst found
        rw [if_pos rfl, if_pos rfl, if_neg (Ne.symm here)]
      · rw [if_neg found, if_neg found]
        exact ih

theorem set_ne_nil (map : VariableMap) (name value : Text) : map.set name value ≠ [] := by
  intro none
  have found := lookup_set map name value name
  rw [none, if_pos rfl] at found
  cases found

theorem Tidy.mem_iff {map : VariableMap} (tidy : map.Tidy) {name value : Text} :
    (name, value) ∈ map ↔ map.lookup name = some value :=
  ⟨fun member => Table.get?_of_mem tidy.distinct member, Table.mem_of_get?⟩

theorem Tidy.accepted_of_lookup {map : VariableMap} (tidy : map.Tidy) {name value : Text}
    (found : map.lookup name = some value) : VariableName.isValid name = true :=
  tidy.accepted name (List.mem_map.mpr ⟨(name, value), Table.mem_of_get? found, rfl⟩)

/-- A tidy map is determined by the values that it gives. -/
theorem Tidy.ext {one two : VariableMap} (oneTidy : one.Tidy) (twoTidy : two.Tidy)
    (same : ∀ name, one.lookup name = two.lookup name) : one = two := by
  have entries_eq : ∀ entry, entry ∈ one ↔ entry ∈ two := by
    intro ⟨name, value⟩
    rw [oneTidy.mem_iff, twoTidy.mem_iff, same]
  have permuted : one.Perm two :=
    (List.perm_ext_iff_of_nodup (List.Nodup.of_map _ oneTidy.distinct)
      (List.Nodup.of_map _ twoTidy.distinct)).mpr entries_eq
  refine permuted.eq_of_pairwise ?_ (List.pairwise_map.mp oneTidy.ascending)
    (List.pairwise_map.mp twoTidy.ascending)
  intro a b _ _ before after
  exact absurd (Text.le_antisymm before.1 after.1) before.2

theorem set_comm {map : VariableMap} (tidy : map.Tidy) {name other : Text}
    (valid : VariableName.isValid name = true) (validOther : VariableName.isValid other = true)
    (apart : name ≠ other) (value otherValue : Text) :
    (map.set name value).set other otherValue = (map.set other otherValue).set name value := by
  apply Tidy.ext ((tidy.set valid value).set validOther otherValue)
    ((tidy.set validOther otherValue).set valid value)
  intro k
  simp only [lookup_set]
  by_cases here : name = k
  · subst here
    simp [Ne.symm apart]
  · simp [here]

/-- A name that was not there is written and erased. -/
theorem erase_set {map : VariableMap} (tidy : map.Tidy) {name : Text}
    (valid : VariableName.isValid name = true) (absent : map.lookup name = none) (value : Text) :
    Table.erase name (map.set name value) = map := by
  apply Tidy.ext ((tidy.set valid value).erase name) tidy
  intro k
  have erased := Table.get?_erase name k (map.set name value)
  by_cases here : name = k
  · subst here
    rw [if_pos rfl] at erased
    exact erased.trans absent.symm
  · rw [if_neg here] at erased
    exact erased.trans ((lookup_set map name value k).trans (if_neg here))

end VariableMap

namespace VariableName

theorem check_of_isValid {name : Text} (valid : isValid name = true) :
    check (.str name) = .ok name :=
  if_pos valid

theorem isValid_of_check {v : Json} {name : Text} (checked : check v = .ok name) :
    v = .str name ∧ isValid name = true := by
  unfold check at checked
  split at checked
  · split at checked
    · next valid =>
      cases checked
      exact ⟨rfl, valid⟩
    · cases checked
  · cases checked

end VariableName

namespace Variables

theorem tidy_foldlM {entries : List (Text × Text)} {start map : VariableMap} (tidy : start.Tidy)
    (folded : entries.foldlM (fun map entry => do
      pure (VariableMap.set (← VariableName.check (.str entry.1)) entry.2 map)) start = .ok map) :
    map.Tidy := by
  induction entries generalizing start with
  | nil =>
    cases folded
    exact tidy
  | cons entry entries ih =>
    rw [List.foldlM_cons] at folded
    cases checked : VariableName.check (.str entry.1) with
    | error e =>
      rw [checked] at folded
      cases folded
    | ok name =>
      rw [checked] at folded
      exact ih (tidy.set (VariableName.isValid_of_check checked).2 entry.2) folded

/-- Variables that are given at once are tidy, and none of them counts as a change. -/
theorem tidy_ofEntries {entries : List (Text × Text)} {vars : Variables}
    (given : ofEntries entries = .ok vars) : vars.map.Tidy ∧ vars.changes = 0 := by
  rw [ofEntries] at given
  obtain ⟨map, folded, eq⟩ := exists_of_bind_eq_ok given
  cases eq
  exact ⟨tidy_foldlM VariableMap.tidy_nil folded, rfl⟩

/-- Entries with accepted names are all written. -/
theorem foldlM_of_accepted {entries : List (Text × Text)}
    (accepted : ∀ name ∈ entries.map Prod.fst, VariableName.isValid name = true)
    (start : VariableMap) :
    entries.foldlM (fun (map : VariableMap) (entry : Text × Text) => do
      pure (VariableMap.set (← VariableName.check (.str entry.1)) entry.2 map)) start =
        (.ok (entries.foldl (fun map entry => map.set entry.1 entry.2) start) :
          Except Error VariableMap) := by
  induction entries generalizing start with
  | nil => rfl
  | cons entry entries ih =>
    obtain ⟨valid, accepted⟩ := List.forall_mem_cons.mp accepted
    rw [List.foldlM_cons, VariableName.check_of_isValid valid]
    exact ih accepted _

/-- The value that entries give last for a name. -/
def lastGiven (entries : List (Text × Text)) (name : Text) : Option Text :=
  Table.get? name entries.reverse

/-- Of names that come once the value is given once. -/
theorem lastGiven_of_distinct {entries : Table Text Text} (distinct : Table.Distinct entries)
    (name : Text) : lastGiven entries name = Table.get? name entries :=
  Table.get?_reverse distinct name

theorem lookup_foldl_lastGiven (entries : List (Text × Text)) (k : Text) :
    (entries.foldl (fun map entry => VariableMap.set entry.1 entry.2 map) []).lookup k =
      lastGiven entries k := by
  induction entries using List.reverseRecOn with
  | nil => rfl
  | append_singleton entries entry ih =>
    obtain ⟨name, value⟩ := entry
    rw [List.foldl_append, List.foldl_cons, List.foldl_nil, VariableMap.lookup_set, ih, lastGiven,
      lastGiven, List.reverse_append, List.reverse_singleton, List.singleton_append, Table.get?]

theorem accepted_of_foldlM {entries : List (Text × Text)} {start map : VariableMap}
    (folded : entries.foldlM (fun map entry => do
      pure (VariableMap.set (← VariableName.check (.str entry.1)) entry.2 map)) start = .ok map) :
    ∀ name ∈ entries.map Prod.fst, VariableName.isValid name = true := by
  induction entries generalizing start with
  | nil => simp
  | cons entry entries ih =>
    rw [List.foldlM_cons] at folded
    obtain ⟨next, set, later⟩ := exists_of_bind_eq_ok folded
    obtain ⟨name, checked, -⟩ := exists_of_bind_eq_ok set
    obtain ⟨same, valid⟩ := VariableName.isValid_of_check checked
    cases same
    exact List.forall_mem_cons.mpr ⟨valid, ih later⟩

theorem ofEntries_of_accepted {entries : List (Text × Text)}
    (accepted : ∀ name ∈ entries.map Prod.fst, VariableName.isValid name = true) :
    ofEntries entries =
      .ok ⟨entries.foldl (fun map entry => VariableMap.set entry.1 entry.2 map) [], 0⟩ :=
  bind_of_eq_ok (foldlM_of_accepted accepted []) _

/-- Variables are taken just when all their names are accepted, and of a name that comes twice the
last value counts. -/
theorem ofEntries_eq_ok_iff {entries : List (Text × Text)} {vars : Variables} :
    ofEntries entries = .ok vars ↔
      (∀ name ∈ entries.map Prod.fst, VariableName.isValid name = true) ∧ vars.changes = 0 ∧
        vars.map.Tidy ∧ ∀ name, vars.map.lookup name = lastGiven entries name := by
  constructor
  · intro given
    obtain ⟨tidy, none⟩ := tidy_ofEntries given
    have accepted : ∀ name ∈ entries.map Prod.fst, VariableName.isValid name = true := by
      obtain ⟨map, folded, -⟩ := exists_of_bind_eq_ok given
      exact accepted_of_foldlM folded
    cases (ofEntries_of_accepted accepted).symm.trans given
    exact ⟨accepted, none, tidy, lookup_foldl_lastGiven entries⟩
  · rintro ⟨accepted, none, tidy, last⟩
    have given := ofEntries_of_accepted accepted
    have same : entries.foldl (fun map entry => VariableMap.set entry.1 entry.2 map) [] = vars.map :=
      VariableMap.Tidy.ext (tidy_ofEntries given).1 tidy fun name =>
        (lookup_foldl_lastGiven entries name).trans (last name).symm
    rw [given, same, ← none]

/-- Variables that are given in any order are taken in the order of their names. -/
theorem ofEntries_of_lookup {entries : Table Text Text} (distinct : Table.Distinct entries)
    {map : VariableMap} (tidy : map.Tidy)
    (same : ∀ name, Table.get? name entries = map.lookup name) :
    ofEntries entries = .ok ⟨map, 0⟩ := by
  have accepted : ∀ name ∈ entries.map Prod.fst, VariableName.isValid name = true := by
    intro name member
    obtain ⟨⟨_, value⟩, there, rfl⟩ := List.mem_map.mp member
    have found := (same _).symm.trans (Table.get?_of_mem distinct there)
    exact tidy.accepted_of_lookup found
  refine ofEntries_eq_ok_iff.mpr ⟨accepted, rfl, tidy, fun name => ?_⟩
  rw [lastGiven_of_distinct distinct, same]

/-- Variables that are tidy are taken as they are. -/
theorem ofEntries_of_tidy {map : VariableMap} (tidy : map.Tidy) : ofEntries map = .ok ⟨map, 0⟩ :=
  ofEntries_of_lookup tidy.distinct tidy fun _ => rfl

section Setting

variable [Platform]

theorem set_eq_ok {name value : Json} {vars after : Variables}
    (changed : vars.set name value = .ok after) :
    ∃ text shown, name = .str text ∧ VariableName.isValid text = true ∧
      value.display = .ok shown ∧ after = ⟨vars.map.set text shown, vars.changes + 1⟩ := by
  rw [set] at changed
  obtain ⟨shown, displayed, rest⟩ := exists_of_bind_eq_ok changed
  obtain ⟨text, checked, eq⟩ := exists_of_bind_eq_ok rest
  obtain ⟨rfl, valid⟩ := VariableName.isValid_of_check checked
  cases eq
  exact ⟨text, shown, rfl, valid, displayed, rfl⟩

theorem tidy_set {name value : Json} {vars after : Variables} (tidy : vars.map.Tidy)
    (changed : vars.set name value = .ok after) : after.map.Tidy := by
  obtain ⟨text, shown, rfl, valid, -, rfl⟩ := set_eq_ok changed
  exact tidy.set valid shown

theorem changes_set {name value : Json} {vars after : Variables}
    (changed : vars.set name value = .ok after) : after.changes ≠ 0 := by
  obtain ⟨text, shown, rfl, valid, -, rfl⟩ := set_eq_ok changed
  exact Nat.succ_ne_zero _

end Setting

/-- Taking the value from a variable that has none is no change. -/
theorem map_remove_of_changes {name : Text} {vars : Variables}
    (none : (vars.remove name).2.changes = 0) : (vars.remove name).2.map = vars.map := by
  rw [remove] at none ⊢
  split at none
  · cases none
  · next missing => rw [if_neg missing]

/-- Taking the value from a variable erases its name. -/
theorem map_remove (name : Text) (vars : Variables) :
    (vars.remove name).2.map = Table.erase name vars.map := by
  rw [remove]
  split
  · rfl
  · next missing =>
    rw [has, Table.has, Option.not_isSome_iff_eq_none] at missing
    exact (Table.erase_of_get? missing).symm

theorem tidy_remove {vars : Variables} (tidy : vars.map.Tidy) (name : Text) :
    (vars.remove name).2.map.Tidy := by
  rw [map_remove]
  exact tidy.erase name

end Variables

end SearchTuning

import Mathlib.Data.List.Nodup
import SearchTuning.Table

/-!
# Tables and their keys

Writing and erasing touch one key.  A table in which no key comes twice keeps that, and its values
are then just its entries.
-/

namespace SearchTuning.Table

variable {κ ν : Type}

/-- No key comes twice. -/
def Distinct (table : Table κ ν) : Prop := (table.map Prod.fst).Nodup

theorem distinct_nil : Distinct ([] : Table κ ν) := List.nodup_nil

variable [DecidableEq κ]

theorem get?_insert (key k : κ) (value : ν) (table : Table κ ν) :
    get? k (insert key value table) = if key = k then some value else get? k table := by
  induction table with
  | nil => rfl
  | cons entry rest ih =>
    obtain ⟨j, v⟩ := entry
    rw [insert]
    by_cases here : j = key
    · subst here
      rw [if_pos rfl, get?, get?]
      split <;> rfl
    · rw [if_neg here, get?, get?, ih]
      by_cases found : j = k
      · subst found
        rw [if_pos rfl, if_pos rfl, if_neg (Ne.symm here)]
      · rw [if_neg found, if_neg found]

@[simp] theorem get?_insert_self (key : κ) (value : ν) (table : Table κ ν) :
    get? key (insert key value table) = some value := by
  rw [get?_insert, if_pos rfl]

theorem get?_insert_of_ne {key k : κ} (other : key ≠ k) (value : ν) (table : Table κ ν) :
    get? k (insert key value table) = get? k table := by
  rw [get?_insert, if_neg other]

theorem get?_erase (key k : κ) (table : Table κ ν) :
    get? k (erase key table) = if key = k then none else get? k table := by
  induction table with
  | nil => simp [erase, get?]
  | cons entry rest ih =>
    obtain ⟨j, v⟩ := entry
    rw [erase] at ih ⊢
    by_cases here : j = key
    · subst here
      rw [List.filter_cons_of_neg (by simp), ih, get?]
      split <;> rfl
    · rw [List.filter_cons_of_pos (by simpa using here), get?, get?, ih]
      by_cases found : j = k
      · subst found
        rw [if_pos rfl, if_pos rfl, if_neg (Ne.symm here)]
      · rw [if_neg found, if_neg found]

theorem get?_erase_of_ne {key k : κ} (other : key ≠ k) (table : Table κ ν) :
    get? k (erase key table) = get? k table := by
  rw [get?_erase, if_neg other]

theorem mem_of_get? {key : κ} {value : ν} {table : Table κ ν}
    (found : get? key table = some value) : (key, value) ∈ table := by
  induction table with
  | nil => cases found
  | cons entry rest ih =>
    obtain ⟨j, v⟩ := entry
    rw [get?] at found
    split at found
    · next here =>
      cases found
      subst here
      exact List.mem_cons_self
    · exact List.mem_cons_of_mem _ (ih found)

theorem get?_of_mem {table : Table κ ν} (distinct : Distinct table) {key : κ} {value : ν}
    (member : (key, value) ∈ table) : get? key table = some value := by
  induction table with
  | nil => cases member
  | cons entry rest ih =>
    obtain ⟨j, v⟩ := entry
    rw [Distinct, List.map_cons, List.nodup_cons] at distinct
    rw [get?]
    rcases List.mem_cons.mp member with same | later
    · cases same
      rw [if_pos rfl]
    · have other : j ≠ key := by
        rintro rfl
        exact distinct.1 (List.mem_map.mpr ⟨_, later, rfl⟩)
      rw [if_neg other, ih distinct.2 later]

/-- Where no key comes twice, the order of the entries does not matter. -/
theorem get?_reverse {table : Table κ ν} (distinct : Distinct table) (key : κ) :
    get? key table.reverse = get? key table := by
  have reversed : Distinct table.reverse := by
    rw [Distinct, List.map_reverse, List.nodup_reverse]
    exact distinct
  refine Option.ext fun value => ⟨fun found => ?_, fun found => ?_⟩
  · exact get?_of_mem distinct (List.mem_reverse.mp (mem_of_get? found))
  · exact get?_of_mem reversed (List.mem_reverse.mpr (mem_of_get? found))

/-! ## Erasing -/

theorem mem_erase {key : κ} {entry : κ × ν} {table : Table κ ν} :
    entry ∈ erase key table ↔ entry ∈ table ∧ entry.1 ≠ key := by
  simp [erase, List.mem_filter]

theorem sublist_erase (key : κ) (table : Table κ ν) : (erase key table).Sublist table :=
  List.filter_sublist

theorem Distinct.erase {table : Table κ ν} (distinct : Distinct table) (key : κ) :
    Distinct (erase key table) :=
  List.Nodup.sublist ((sublist_erase key table).map Prod.fst) distinct

/-! ## Writing -/

theorem mem_keys_insert {key k : κ} {value : ν} {table : Table κ ν}
    (member : k ∈ (insert key value table).map Prod.fst) : k = key ∨ k ∈ table.map Prod.fst := by
  induction table with
  | nil => exact .inl (by simpa [insert] using member)
  | cons entry rest ih =>
    obtain ⟨j, v⟩ := entry
    rw [insert] at member
    split at member
    · exact .inr member
    · rw [List.map_cons, List.mem_cons] at member ⊢
      rcases member with here | later
      · exact .inr (.inl here)
      · exact (ih later).imp_right .inr

theorem Distinct.insert {table : Table κ ν} (distinct : Distinct table) (key : κ) (value : ν) :
    Distinct (insert key value table) := by
  induction table with
  | nil => exact List.nodup_singleton key
  | cons entry rest ih =>
    obtain ⟨j, v⟩ := entry
    rw [Distinct, List.map_cons, List.nodup_cons] at distinct
    rw [Table.insert]
    split
    · exact List.nodup_cons.mpr distinct
    · next other =>
      refine List.nodup_cons.mpr ⟨?_, ih distinct.2⟩
      intro member
      exact (mem_keys_insert member).elim other distinct.1

/-- Of the entries after writing one is new, and the others were there under other keys. -/
theorem mem_insert {table : Table κ ν} (distinct : Distinct table) {key : κ} {value : ν}
    {entry : κ × ν} (member : entry ∈ insert key value table) :
    entry = (key, value) ∨ (entry ∈ table ∧ entry.1 ≠ key) := by
  obtain ⟨k, v⟩ := entry
  have found := get?_of_mem (distinct.insert key value) member
  rw [get?_insert] at found
  split at found
  · next same =>
    cases found
    exact .inl (by rw [same])
  · next other => exact .inr ⟨mem_of_get? found, Ne.symm other⟩

/-! ## One key twice -/

@[simp] theorem insert_insert (key : κ) (first second : ν) (table : Table κ ν) :
    insert key second (insert key first table) = insert key second table := by
  induction table with
  | nil => simp [insert]
  | cons entry rest ih =>
    obtain ⟨j, v⟩ := entry
    by_cases here : j = key <;> simp [insert, here, ih]

@[simp] theorem erase_insert (key : κ) (value : ν) (table : Table κ ν) :
    erase key (insert key value table) = erase key table := by
  induction table with
  | nil => simp [insert, erase]
  | cons entry rest ih =>
    obtain ⟨j, v⟩ := entry
    rw [erase, erase] at ih ⊢
    by_cases here : j = key
    · simp [insert, here]
    · simpa [insert, here] using ih

/-- Writing the value that is there changes nothing. -/
theorem insert_of_get? {key : κ} {value : ν} {table : Table κ ν}
    (found : get? key table = some value) : insert key value table = table := by
  induction table with
  | nil => cases found
  | cons entry rest ih =>
    obtain ⟨j, v⟩ := entry
    rw [get?] at found
    rw [insert]
    split at found
    · next here =>
      cases found
      rw [if_pos here, here]
    · next other => rw [if_neg other, ih found]

/-- Erasing a key that is not there changes nothing. -/
theorem erase_of_get? {key : κ} {table : Table κ ν} (missing : get? key table = none) :
    erase key table = table := by
  induction table with
  | nil => rfl
  | cons entry rest ih =>
    obtain ⟨j, v⟩ := entry
    rw [get?] at missing
    rw [erase] at ih ⊢
    split at missing
    · cases missing
    · next other => rw [List.filter_cons_of_pos (by simpa using other), ih missing]

/-! ## Keys that are not there -/

theorem get?_append_of_absent {key : κ} {table : Table κ ν} (absent : key ∉ table.map Prod.fst)
    (rest : Table κ ν) : get? key (table ++ rest) = get? key rest := by
  induction table with
  | nil => rfl
  | cons entry table ih =>
    obtain ⟨j, v⟩ := entry
    rw [List.map_cons, List.mem_cons, not_or] at absent
    rw [List.cons_append, get?, if_neg (Ne.symm absent.1), ih absent.2]

theorem insert_append_of_absent {key : κ} {table : Table κ ν} (absent : key ∉ table.map Prod.fst)
    (value : ν) (rest : Table κ ν) :
    insert key value (table ++ rest) = table ++ insert key value rest := by
  induction table with
  | nil => rfl
  | cons entry table ih =>
    obtain ⟨j, v⟩ := entry
    rw [List.map_cons, List.mem_cons, not_or] at absent
    rw [List.cons_append, insert, if_neg (Ne.symm absent.1), ih absent.2, List.cons_append]

/-- A key without a value is not there. -/
theorem not_mem_keys_of_has {key : κ} {table : Table κ ν} (missing : has key table = false) :
    key ∉ table.map Prod.fst := by
  induction table with
  | nil => exact List.not_mem_nil
  | cons entry table ih =>
    obtain ⟨j, v⟩ := entry
    rw [has, get?] at missing
    split at missing
    · cases missing
    · next other =>
      rw [List.map_cons, List.mem_cons, not_or]
      exact ⟨Ne.symm other, ih missing⟩

omit [DecidableEq κ] in
theorem Distinct.append_single {table : Table κ ν} (distinct : Distinct table) {key : κ}
    (absent : key ∉ table.map Prod.fst) (value : ν) : Distinct (table ++ [(key, value)]) := by
  rw [Distinct, List.map_append, List.map_singleton]
  refine List.Nodup.append distinct (List.nodup_singleton key) ?_
  intro k there here
  rw [List.mem_singleton.mp here] at there
  exact absent there

/-! ## The keys of a table -/

/-- Writing adds a key only if it is not there. -/
theorem keys_insert (key : κ) (value : ν) (table : Table κ ν) :
    (insert key value table).map Prod.fst =
      if key ∈ table.map Prod.fst then table.map Prod.fst else table.map Prod.fst ++ [key] := by
  induction table with
  | nil => simp [insert]
  | cons entry table ih =>
    obtain ⟨j, v⟩ := entry
    rw [insert]
    by_cases here : j = key
    · simp [here]
    · rw [if_neg here, List.map_cons, ih]
      by_cases there : key ∈ table.map Prod.fst
      · simp only [List.map_cons, List.mem_cons, there, or_true, if_true]
      · have absent : key ∉ ((j, v) :: table).map Prod.fst := by
          rw [List.map_cons, List.mem_cons, not_or]
          exact ⟨Ne.symm here, there⟩
        rw [if_neg there, if_neg absent, List.map_cons, List.cons_append]

/-! ## Changing a value in its place -/

/-- The table with the value at a key changed, if there is one. -/
def modify (key : κ) (f : ν → ν) (table : Table κ ν) : Table κ ν :=
  table.map fun entry => if entry.1 = key then (entry.1, f entry.2) else entry

theorem modify_of_absent {key : κ} {table : Table κ ν} (absent : key ∉ table.map Prod.fst)
    (f : ν → ν) : modify key f table = table := by
  induction table with
  | nil => rfl
  | cons entry table ih =>
    rw [List.map_cons, List.mem_cons, not_or] at absent
    have later := ih absent.2
    rw [modify] at later ⊢
    rw [List.map_cons, if_neg (Ne.symm absent.1), later]

/-- Writing to a key that is there changes its value and nothing else. -/
theorem insert_eq_modify {key : κ} {old : ν} {table : Table κ ν} (distinct : Distinct table)
    (found : get? key table = some old) (f : ν → ν) :
    insert key (f old) table = modify key f table := by
  induction table with
  | nil => cases found
  | cons entry table ih =>
    obtain ⟨j, v⟩ := entry
    obtain ⟨absent, distinct⟩ := List.nodup_cons.mp distinct
    rw [get?] at found
    rw [insert, modify, List.map_cons, ← modify]
    by_cases here : j = key
    · subst here
      rw [if_pos rfl] at found
      cases found
      rw [if_pos rfl, if_pos rfl, modify_of_absent absent]
    · rw [if_neg here] at found
      rw [if_neg here, if_neg here, ih distinct found]

/-- Writing to a key that is not there adds it at the end. -/
theorem insert_of_get?_eq_none {key : κ} {table : Table κ ν} (missing : get? key table = none)
    (value : ν) : insert key value table = table ++ [(key, value)] := by
  have absent : key ∉ table.map Prod.fst := not_mem_keys_of_has (by rw [has, missing]; rfl)
  have added := insert_append_of_absent absent value []
  rwa [List.append_nil, insert] at added

/-! ## Keys that are looked for -/

theorem get?_map {ξ : Type} (f : ν → ξ) (key : κ) (table : Table κ ν) :
    get? key (table.map fun entry => (entry.1, f entry.2)) = (get? key table).map f := by
  induction table with
  | nil => rfl
  | cons entry table ih =>
    rw [List.map_cons, get?, get?, ih]
    split <;> rfl

/-- The first entry with a key holds the value at the key. -/
theorem find?_key (key : κ) (table : Table κ ν) :
    (table.find? fun entry => entry.1 = key) = (get? key table).map (key, ·) := by
  induction table with
  | nil => rfl
  | cons entry table ih =>
    obtain ⟨k, value⟩ := entry
    rw [get?]
    by_cases here : k = key
    · subst here
      rw [List.find?_cons_of_pos (by simp), if_pos rfl, Option.map_some]
    · rw [List.find?_cons_of_neg (by simpa using here), if_neg here, ih]

/-! ## The part of a table under some keys -/

/-- The entries whose keys satisfy a condition. -/
def onKeys (p : κ → Bool) (table : Table κ ν) : Table κ ν := table.filter fun entry => p entry.1

section

variable {p : κ → Bool} {key : κ}

omit [DecidableEq κ] in
theorem onKeys_cons (entry : κ × ν) (rest : Table κ ν) :
    onKeys p (entry :: rest) = if p entry.1 = true then entry :: onKeys p rest else onKeys p rest :=
  List.filter_cons

omit [DecidableEq κ] in
@[simp] theorem onKeys_onKeys (p : κ → Bool) (table : Table κ ν) :
    onKeys p (onKeys p table) = onKeys p table := by
  simp [onKeys, List.filter_filter]

theorem get?_onKeys (chosen : p key = true) (table : Table κ ν) :
    get? key (onKeys p table) = get? key table := by
  induction table with
  | nil => rfl
  | cons entry rest ih =>
    obtain ⟨j, v⟩ := entry
    rw [onKeys_cons]
    by_cases kept : p j = true
    · rw [if_pos kept, get?, get?, ih]
    · have other : j ≠ key := by
        rintro rfl
        exact kept chosen
      rw [if_neg kept, ih, get?, if_neg other]

theorem onKeys_insert (chosen : p key = true) (value : ν) (table : Table κ ν) :
    onKeys p (insert key value table) = insert key value (onKeys p table) := by
  induction table with
  | nil => simp [onKeys, insert, chosen]
  | cons entry rest ih =>
    obtain ⟨j, v⟩ := entry
    by_cases here : j = key
    · subst here
      simp [insert, onKeys_cons, chosen]
    · by_cases kept : p j = true <;> simp [insert, onKeys_cons, here, kept, ih]

theorem onKeys_insert_of_not (left : p key = false) (value : ν) (table : Table κ ν) :
    onKeys p (insert key value table) = onKeys p table := by
  induction table with
  | nil => simp [onKeys, insert, left]
  | cons entry rest ih =>
    obtain ⟨j, v⟩ := entry
    by_cases here : j = key
    · subst here
      simp [insert, onKeys_cons, left]
    · simp [insert, onKeys_cons, here, ih]

theorem onKeys_erase (p : κ → Bool) (key : κ) (table : Table κ ν) :
    onKeys p (erase key table) = erase key (onKeys p table) := by
  simp [onKeys, erase, List.filter_filter, Bool.and_comm]

/-- A key outside of a part is not in it. -/
theorem erase_onKeys_of_not (left : p key = false) (table : Table κ ν) :
    erase key (onKeys p table) = onKeys p table := by
  rw [erase, List.filter_eq_self]
  intro entry member
  have kept : p entry.1 = true := (List.mem_filter.mp member).2
  have other : entry.1 ≠ key := by
    intro same
    rw [same, left] at kept
    cases kept
  exact decide_eq_true other

end

/-! ## Tables of entries -/

theorem distinct_ofEntries (entries : List (κ × ν)) : Distinct (ofEntries entries) := by
  have onto : ∀ table : Table κ ν, Distinct table →
      Distinct (entries.foldl (fun table entry => insert entry.1 entry.2 table) table) := by
    induction entries with
    | nil => exact fun _ distinct => distinct
    | cons entry entries ih => exact fun table distinct => ih _ (distinct.insert entry.1 entry.2)
  exact onto [] distinct_nil

/-- Entries come from nowhere else. -/
theorem mem_of_mem_ofEntries {entries : List (κ × ν)} {entry : κ × ν}
    (member : entry ∈ ofEntries entries) : entry ∈ entries := by
  have onto : ∀ (given : List (κ × ν)) (table : Table κ ν), Distinct table →
      entry ∈ given.foldl (fun table entry => insert entry.1 entry.2 table) table →
        entry ∈ table ∨ entry ∈ given := by
    intro given
    induction given with
    | nil => exact fun _ _ member => .inl member
    | cons added given ih =>
      intro table distinct member
      rcases ih _ (distinct.insert added.1 added.2) member with here | later
      · rcases mem_insert distinct here with rfl | ⟨there, -⟩
        · exact .inr List.mem_cons_self
        · exact .inl there
      · exact .inr (List.mem_cons_of_mem added later)
  rcases onto entries [] distinct_nil member with none | given
  · cases none
  · exact given

/-- Entries whose keys come once are written as they are. -/
theorem ofEntries_of_distinct {entries : List (κ × ν)} (distinct : Distinct entries) :
    ofEntries entries = entries := by
  have onto : ∀ rest done : Table κ ν, Distinct (done ++ rest) →
      rest.foldl (fun table entry => insert entry.1 entry.2 table) done = done ++ rest := by
    intro rest
    induction rest with
    | nil => exact fun done _ => (List.append_nil done).symm
    | cons entry rest ih =>
      intro done distinct
      have absent : entry.1 ∉ done.map Prod.fst := by
        rw [Distinct, List.map_append, List.map_cons] at distinct
        exact fun there => List.disjoint_of_nodup_append distinct there List.mem_cons_self
      have added := insert_append_of_absent absent entry.2 []
      rw [List.append_nil] at added
      rw [List.append_cons] at distinct ⊢
      rw [List.foldl_cons, added, insert]
      exact ih _ distinct
  exact onto entries [] distinct

end SearchTuning.Table

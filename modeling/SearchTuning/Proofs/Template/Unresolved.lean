import SearchTuning.Proofs.Template.Locality

/-!
# The names that stay

The names that are reported as unknown are those of the variables that filling leaves as they are
written: each once, and in the order in which the template first has them.
-/

namespace SearchTuning

/-! ## First occurrences -/

section

variable {α : Type} {l : List α} {x y : α}

/-- The list has the first item, and the second only behind it. -/
def FirstBefore (l : List α) (x y : α) : Prop :=
  ∃ front back, l = front ++ x :: back ∧ y ∉ front ∧ y ≠ x

theorem FirstBefore.cons {a : α} (other : y ≠ a) (first : FirstBefore l x y) :
    FirstBefore (a :: l) x y := by
  obtain ⟨front, back, rfl, absent, apart⟩ := first
  refine ⟨a :: front, back, rfl, ?_, apart⟩
  rw [List.mem_cons, not_or]
  exact ⟨other, absent⟩

/-- What is left out does not change which of the items left comes first. -/
theorem FirstBefore.of_filter (p : α → Bool) (kept : p y = true)
    (first : FirstBefore (l.filter p) x y) : FirstBefore l x y := by
  obtain ⟨front, back, split, absent, apart⟩ := first
  obtain ⟨before, rest, rfl, beforeKept, restKept⟩ := List.filter_eq_append_iff.mp split
  obtain ⟨between, after, rfl, left, -, -⟩ := List.filter_eq_cons_iff.mp restKept
  refine ⟨before ++ between, after, by rw [List.append_assoc], ?_, apart⟩
  rw [List.mem_append, not_or]
  constructor
  · intro there
    rw [← beforeKept] at absent
    exact absent (List.mem_filter.mpr ⟨there, kept⟩)
  · exact fun there => left y there kept

/-- Without its repetitions, a list is in the order of first occurrence. -/
theorem pairwise_eraseDups [BEq α] [LawfulBEq α] (l : List α) :
    l.eraseDups.Pairwise (FirstBefore l) := by
  induction size : l.length using Nat.strongRecOn generalizing l with
  | _ n shorter =>
    cases l with
    | nil => exact .nil
    | cons a rest =>
      have fewer : (rest.filter fun b => !b == a).length < n := by
        rw [← size, List.length_cons]
        exact Nat.lt_succ_of_le (List.length_filter_le _ rest)
      have later := shorter _ fewer (rest.filter fun b => !b == a) rfl
      have kept {y : α} (member : y ∈ (rest.filter fun b => !b == a).eraseDups) :
          (!y == a) = true :=
        (List.mem_filter.mp (List.mem_eraseDups.mp member)).2
      rw [List.eraseDups_cons, List.pairwise_cons]
      constructor
      · intro y member
        exact ⟨[], rest, rfl, List.not_mem_nil, by simpa using kept member⟩
      · refine later.imp_of_mem fun _ member first => ?_
        exact (first.of_filter (fun b => !b == a) (kept member)).cons (by simpa using kept member)

end

namespace Template

variable {m : VariableMap} {t : Text}

/-! ## The names of a template, in their order -/

/-- The names come in the order in which they are written. -/
theorem exists_variableAt_of_firstBefore {x y : Text} (first : FirstBefore (names t) x y) :
    ∃ i, VariableAt t i x ∧ ∀ j, VariableAt t j y → i < j := by
  induction t using variableInduction with
  | nil =>
    obtain ⟨front, back, split, -⟩ := first
    cases front <;> cases split
  | written name rest named ih =>
    simp only [variableAt_source_append named]
    obtain ⟨front, back, split, absent, apart⟩ := first
    rw [names_source_append named] at split
    rcases List.cons_eq_append_iff.mp split with ⟨rfl, here⟩ | ⟨later, rfl, behind⟩
    · obtain ⟨rfl, -⟩ := List.cons.inj here
      refine ⟨0, .inl ⟨rfl, rfl⟩, ?_⟩
      rintro j (⟨-, same⟩ | ⟨k, rfl, -⟩)
      · exact absurd same apart
      · omega
    · rw [List.mem_cons, not_or] at absent
      obtain ⟨i, there, sooner⟩ := ih ⟨later, back, behind, absent.2, apart⟩
      refine ⟨_, .inr ⟨i, rfl, there⟩, ?_⟩
      rintro j (⟨-, same⟩ | ⟨k, rfl, other⟩)
      · exact absurd same absent.1
      · exact Nat.add_lt_add_left (sooner k other) _
  | literal c rest absent ih =>
    simp only [variableAt_cons absent]
    rw [names_cons absent] at first
    obtain ⟨i, there, sooner⟩ := ih first
    refine ⟨_, ⟨i, rfl, there⟩, ?_⟩
    rintro j ⟨k, rfl, other⟩
    exact Nat.succ_lt_succ (sooner k other)

theorem mem_unresolved_iff {name : Text} :
    name ∈ unresolved m.bindings.knows t ↔ m.lookup name = none ∧ ∃ i, VariableAt t i name := by
  rw [unresolved, List.mem_eraseDups, List.mem_filter, mem_names_iff, m.knows_bindings, and_comm,
    Bool.not_eq_true', Option.isSome_eq_false_iff, Option.isNone_iff_eq_none]

theorem unresolved_in_order (m : VariableMap) (t : Text) :
    (unresolved m.bindings.knows t).Pairwise (FirstBefore (names t)) := by
  rw [unresolved]
  refine (pairwise_eraseDups ((names t).filter fun name => !m.bindings.knows name)).imp_of_mem ?_
  intro x y _ member first
  have unknown := (List.mem_filter.mp (List.mem_eraseDups.mp member)).2
  exact first.of_filter (fun name => !m.bindings.knows name) unknown

/-- Each name is told once, and one with a value, even an empty one, is not. -/
example : unresolved (VariableMap.bindings [(['a'], [])]).knows (Text.ofString "{b}{a}{c}{b}") =
    [Text.ofString "b", Text.ofString "c"] := by
  decide

/-! ## One variable between what is before and behind it -/

theorem VariableAt.exists_eq {i : Nat} {name : Text} (written : VariableAt t i name) :
    ∃ before after, t = before ++ ((Part.variable name).source ++ after) ∧ before.length = i := by
  obtain ⟨named, after, eq⟩ := written
  have front : i < t.length := by
    have total := congrArg List.length eq
    rw [List.length_append, length_source, List.length_drop] at total
    omega
  refine ⟨t.take i, after, ?_, List.length_take_of_le (Nat.le_of_lt front)⟩
  rw [eq, List.take_append_drop]

/-- A variable is filled apart from what is before and behind it. -/
theorem fill_around {name : Text} (named : IsName name) (before after : Text) :
    fill m.lookup (before ++ ((Part.variable name).source ++ after)) =
      fill m.lookup before ++
        ((m.lookup name).getD (Part.variable name).source ++ fill m.lookup after) := by
  have here : VariableAt (before ++ ((Part.variable name).source ++ after)) before.length name :=
    variableAt_append_right (j := 0) |>.mpr ⟨named, List.prefix_append _ _⟩
  have whole : ¬ Inside m (before ++ ((Part.variable name).source ++ after)) before.length := by
    rintro ⟨entry, -, start, front, written, behind⟩
    exact written.not_inside front behind here
  rw [fill_append whole, fill_source_append named]

end Template

namespace Args

open Template

variable [Platform]

/-- A variable is written at the position, and in the filled template it has come to a text, which
stands between what is before and what is behind the variable, each filled alone. -/
def ComesTo (escape : Text → Text) (m : VariableMap) (t : Text) (i : Nat) (name out : Text) :
    Prop :=
  ∃ before after front back,
    t = before ++ ((Part.variable name).source ++ after) ∧ before.length = i ∧ IsName name ∧
    substituteWith escape none m.bindings before = .ok front ∧
    substituteWith escape none m.bindings after = .ok back ∧
    substituteWith escape none m.bindings t = .ok (front ++ (out ++ back))

theorem comesTo_of_variableAt (escape : Text → Text) (m : VariableMap) {t : Text} {i : Nat}
    {name : Text} (written : VariableAt t i name) :
    ComesTo escape m t i name ((m.lookup name).getD (Part.variable name).source) := by
  obtain ⟨before, after, rfl, length⟩ := written.exists_eq
  refine ⟨before, after, fill m.lookup before, fill m.lookup after, rfl, length, written.1,
    ?_, ?_, ?_⟩
  · rw [substituteWith_bindings, substitute]
  · rw [substituteWith_bindings, substitute]
  · rw [substituteWith_bindings, substitute, fill_around written.1]

theorem variableAt_of_comesTo {escape : Text → Text} {m : VariableMap} {t : Text} {i : Nat}
    {name out : Text} (comes : ComesTo escape m t i name out) : VariableAt t i name := by
  obtain ⟨before, after, -, -, rfl, rfl, named, -⟩ := comes
  exact variableAt_append_right (j := 0) |>.mpr ⟨named, List.prefix_append _ _⟩

/-- The names reported as unknown come once each, in the order in which the template first has them.
They are the names of the variables that have no value and are left as they are written; if there
are none, every variable of the template has come to its value.  Without a map all of this holds as
it does with the empty one. -/
theorem unresolved_left_as_written (escape : Text → Text) (m : VariableMap) (t : Text) :
    (unresolved m.bindings.knows t).Nodup ∧
    (unresolved m.bindings.knows t).Pairwise (fun x y =>
      ∃ i, VariableAt t i x ∧ ∀ j, VariableAt t j y → i < j) ∧
    (∀ name, name ∈ unresolved m.bindings.knows t ↔
      ∃ i, m.lookup name = none ∧ ComesTo escape m t i name (Part.variable name).source) ∧
    (unresolved m.bindings.knows t = [] → ∀ i name, VariableAt t i name →
      ∃ value, m.lookup name = some value ∧ ComesTo escape m t i name value) ∧
    Bindings.ofJson .null = VariableMap.bindings [] := by
  have ordered := unresolved_in_order m t
  refine ⟨ordered.imp fun ⟨_, _, _, _, apart⟩ => Ne.symm apart,
    ordered.imp exists_variableAt_of_firstBefore, ?_, ?_, VariableMap.bindings_nil.symm⟩
  · intro name
    rw [mem_unresolved_iff]
    constructor
    · rintro ⟨unknown, i, written⟩
      have comes := comesTo_of_variableAt escape m written
      rw [unknown, Option.getD_none] at comes
      exact ⟨i, unknown, comes⟩
    · rintro ⟨i, unknown, comes⟩
      exact ⟨unknown, i, variableAt_of_comesTo comes⟩
  · intro none i name written
    cases known : m.lookup name with
    | none =>
      have member := mem_unresolved_iff.mpr ⟨known, i, written⟩
      rw [none] at member
      cases member
    | some value =>
      have comes := comesTo_of_variableAt escape m written
      rw [known, Option.getD_some] at comes
      exact ⟨value, rfl, comes⟩

end Args

end SearchTuning

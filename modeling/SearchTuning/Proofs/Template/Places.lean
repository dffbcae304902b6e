import SearchTuning.Template.Basic

/-!
# Where the variables of a template are written

A variable is written at a position of a template if the opening brace stands there, a name after
it, and the closing brace after the name.  This says nothing of a scan.  No word character is a
brace, so two variables never overlap, and the scan finds exactly the variables that are written: it
takes a template apart at its front, a variable at a time where one is written and a code point at a
time where none is.
-/

namespace SearchTuning.Template

/-- What may stand between braces as a name: word characters, at least one. -/
def IsName (name : Text) : Prop := name ≠ [] ∧ ∀ c ∈ name, c.isWord = true

instance (name : Text) : Decidable (IsName name) :=
  decidable_of_iff (name ≠ [] ∧ name.all CodePoint.isWord = true) (by rw [List.all_eq_true, IsName])

/-- The variable is written in the text from the position on. -/
def VariableAt (t : Text) (i : Nat) (name : Text) : Prop :=
  IsName name ∧ (Part.variable name).source <+: t.drop i

instance (t : Text) (i : Nat) (name : Text) : Decidable (VariableAt t i name) :=
  inferInstanceAs (Decidable (_ ∧ _))

theorem source_append (name rest : Text) :
    (Part.variable name).source ++ rest =
      CodePoint.ofChar '{' :: (name ++ CodePoint.ofChar '}' :: rest) := by
  rw [Part.source, List.append_assoc, List.cons_append, List.singleton_append]

theorem length_source (name : Text) : (Part.variable name).source.length = name.length + 2 := by
  rw [Part.source, List.length_append, List.length_cons, List.length_singleton]

/-- What stands behind the opening brace of a variable opens no other one. -/
theorem ne_opening_of_mem {name : Text} (named : IsName name) {c : CodePoint}
    (member : c ∈ name ++ [CodePoint.ofChar '}']) : c ≠ '{' := by
  rintro rfl
  rcases List.mem_append.mp member with word | closing
  · exact absurd (named.2 _ word) (by decide)
  · exact absurd (List.mem_singleton.mp closing) (by decide)

/-! ## Names and variables at the front -/

/-- A name is found only before a closing brace. -/
theorem eq_of_name? {t name : Text} (found : name? t = some name) :
    t = name ++ CodePoint.ofChar '}' :: t.drop (name.length + 1) := by
  rw [name?] at found
  split at found
  · next closed =>
    cases found
    obtain ⟨rest, eq⟩ := List.head?_eq_some_iff.mp closed.2
    have whole := List.prefix_iff_eq_append.mp (List.takeWhile_prefix CodePoint.isWord (l := t))
    rw [← List.drop_drop, eq]
    exact (eq ▸ whole).symm
  · cases found

theorem isName_of_name? {t name : Text} (found : name? t = some name) : IsName name := by
  rw [name?] at found
  split at found
  · next closed =>
    cases found
    exact ⟨closed.1, List.all_eq_true.mp List.all_takeWhile⟩
  · cases found

theorem name?_append {name : Text} (named : IsName name) (rest : Text) :
    name? (name ++ CodePoint.ofChar '}' :: rest) = some name := by
  have stop : ¬ (CodePoint.ofChar '}').isWord = true := by decide
  have word : (name ++ CodePoint.ofChar '}' :: rest).takeWhile CodePoint.isWord = name := by
    rw [List.takeWhile_append_of_pos named.2, List.takeWhile_cons_of_neg stop, List.append_nil]
  rw [name?, word, if_pos ⟨named.1, by rw [List.drop_left]; rfl⟩]

theorem variableAt_iff {t name : Text} {i : Nat} :
    VariableAt t i name ↔
      ∃ rest, t.drop i = CodePoint.ofChar '{' :: rest ∧ name? rest = some name := by
  constructor
  · rintro ⟨named, rest, eq⟩
    rw [source_append] at eq
    exact ⟨_, eq.symm, name?_append named rest⟩
  · rintro ⟨after, front, found⟩
    refine ⟨isName_of_name? found, after.drop (name.length + 1), ?_⟩
    rw [source_append, front, ← eq_of_name? found]

/-- One variable at most is written at a position. -/
theorem VariableAt.unique {t one two : Text} {i : Nat} (first : VariableAt t i one)
    (second : VariableAt t i two) : one = two := by
  obtain ⟨rest, front, found⟩ := variableAt_iff.mp first
  obtain ⟨other, again, foundToo⟩ := variableAt_iff.mp second
  rw [front] at again
  cases again
  exact Option.some.inj (found.symm.trans foundToo)

theorem variableAt_append_right {a b name : Text} {j : Nat} :
    VariableAt (a ++ b) (a.length + j) name ↔ VariableAt b j name := by
  rw [VariableAt, VariableAt, List.drop_length_add_append]

theorem not_variableAt_nil (i : Nat) (name : Text) : ¬ VariableAt [] i name := by
  rintro ⟨-, front⟩
  rw [List.drop_nil, List.prefix_nil, Part.source] at front
  cases front

/-- A variable is written whole, so no other one begins inside of it. -/
theorem VariableAt.not_inside {t name other : Text} {i j : Nat} (written : VariableAt t i name)
    (after : i < j) (before : j < i + name.length + 2) : ¬ VariableAt t j other := by
  intro second
  obtain ⟨named, rest, eq⟩ := written
  obtain ⟨k, rfl⟩ := Nat.exists_eq_add_of_lt after
  have short : k < (name ++ [CodePoint.ofChar '}']).length := by
    rw [List.length_append, List.length_singleton]
    omega
  obtain ⟨tail, front, -⟩ := variableAt_iff.mp second
  have there : (name ++ [CodePoint.ofChar '}']).drop k ++ rest = CodePoint.ofChar '{' :: tail := by
    rw [← front, Nat.add_assoc, ← List.drop_drop, ← eq, Part.source, List.cons_append,
      List.cons_append, List.drop_succ_cons, List.drop_append_of_le_length (Nat.le_of_lt short)]
  rw [List.drop_eq_getElem_cons short, List.cons_append] at there
  exact ne_opening_of_mem named (List.getElem_mem short) (List.cons.inj there).1

/-- Behind a variable at the front, the variables are those of the rest. -/
theorem variableAt_source_append {name other rest : Text} {j : Nat} (named : IsName name) :
    VariableAt ((Part.variable name).source ++ rest) j other ↔
      j = 0 ∧ other = name ∨ ∃ k, j = name.length + 2 + k ∧ VariableAt rest k other := by
  have front : VariableAt ((Part.variable name).source ++ rest) 0 name :=
    ⟨named, List.prefix_append _ _⟩
  constructor
  · intro there
    by_cases start : j = 0
    · subst start
      exact .inl ⟨rfl, there.unique front⟩
    have beyond : name.length + 2 ≤ j := by
      apply Nat.le_of_not_lt
      intro inside
      exact front.not_inside (Nat.pos_of_ne_zero start) (by omega) there
    obtain ⟨k, rfl⟩ := Nat.exists_eq_add_of_le beyond
    rw [← length_source, variableAt_append_right] at there
    exact .inr ⟨k, rfl, there⟩
  · rintro (⟨rfl, rfl⟩ | ⟨k, rfl, there⟩)
    · exact front
    · rw [← length_source, variableAt_append_right]
      exact there

/-- Behind a code point at which no variable is written, the variables are those of the rest. -/
theorem variableAt_cons {c : CodePoint} {name rest : Text} {j : Nat}
    (absent : ∀ other, ¬ VariableAt (c :: rest) 0 other) :
    VariableAt (c :: rest) j name ↔ ∃ k, j = k + 1 ∧ VariableAt rest k name := by
  cases j with
  | zero => exact ⟨fun there => absurd there (absent name), fun ⟨k, eq, _⟩ => by cases eq⟩
  | succ k => exact ⟨fun there => ⟨k, rfl, there⟩, fun ⟨_, eq, there⟩ => by cases eq; exact there⟩

/-- A code point that is no opening brace begins no variable. -/
theorem not_variableAt_of_ne {c : CodePoint} (plain : c ≠ '{') (rest name : Text) :
    ¬ VariableAt (c :: rest) 0 name := by
  intro there
  obtain ⟨tail, front, -⟩ := variableAt_iff.mp there
  exact plain (List.cons.inj front).1

/-! ## The scan -/

/-- What a text begins with: a variable where one is written, a code point where none is. -/
inductive Front : Text → Prop where
  | nil : Front []
  | written (name rest : Text) (named : IsName name) : Front ((Part.variable name).source ++ rest)
  | literal (c : CodePoint) (rest : Text) (absent : ∀ name, ¬ VariableAt (c :: rest) 0 name) :
      Front (c :: rest)

theorem front (t : Text) : Front t := by
  cases t with
  | nil => exact .nil
  | cons c rest =>
    by_cases found : ∃ name, VariableAt (c :: rest) 0 name
    · obtain ⟨name, named, after, eq⟩ := found
      rw [← List.drop_zero (l := c :: rest), ← eq]
      exact .written name after named
    · exact .literal c rest (not_exists.mp found)

/-- A template is taken apart at its front: a variable at a time where one is written, a code point
at a time where none is. -/
@[elab_as_elim]
theorem variableInduction {motive : Text → Prop} (nil : motive [])
    (written : ∀ name rest, IsName name → motive rest →
      motive ((Part.variable name).source ++ rest))
    (literal : ∀ c rest, (∀ name, ¬ VariableAt (c :: rest) 0 name) → motive rest →
      motive (c :: rest)) (t : Text) : motive t := by
  induction size : t.length using Nat.strongRecOn generalizing t with
  | _ n shorter =>
    cases front t with
    | nil => exact nil
    | written name rest named =>
      rw [List.length_append, length_source] at size
      exact written name rest named (shorter rest.length (by omega) rest rfl)
    | literal c rest absent =>
      rw [List.length_cons] at size
      exact literal c rest absent (shorter rest.length (by omega) rest rfl)

theorem partsFrom_append (passed rest : Text) :
    partsFrom passed.length (passed ++ rest) = parts rest := by
  induction passed with
  | nil => rfl
  | cons c passed ih => exact ih

theorem parts_source_append {name : Text} (named : IsName name) (rest : Text) :
    parts ((Part.variable name).source ++ rest) = .variable name :: parts rest := by
  have passed := partsFrom_append (name ++ [CodePoint.ofChar '}']) rest
  rw [List.length_append, List.length_singleton, List.append_assoc, List.singleton_append] at passed
  rw [source_append, parts, partsFrom, if_pos rfl, name?_append named, ← passed]

/-- Where no variable is written at the front, no name is read there. -/
theorem front_eq_none {c : CodePoint} {rest : Text}
    (absent : ∀ name, ¬ VariableAt (c :: rest) 0 name) :
    (if c = '{' then name? rest else none) = none := by
  split
  · next brace =>
    cases found : name? rest with
    | none => rfl
    | some name => exact absurd (variableAt_iff.mpr ⟨rest, by rw [brace]; rfl, found⟩) (absent name)
  · rfl

theorem parts_cons {c : CodePoint} {rest : Text}
    (absent : ∀ name, ¬ VariableAt (c :: rest) 0 name) :
    parts (c :: rest) = .literal c :: parts rest := by
  rw [parts, partsFrom, front_eq_none absent]
  rfl

/-- The scan finds a variable behind as many code points as the position counts. -/
def FoundAt (t : Text) (i : Nat) (name : Text) : Prop :=
  ∃ before after, parts t = before ++ .variable name :: after ∧
    (before.flatMap Part.source).length = i

/-- The scan finds the variables that are written, each at its position. -/
theorem foundAt_iff (t : Text) (i : Nat) (name : Text) :
    FoundAt t i name ↔ VariableAt t i name := by
  induction t using variableInduction generalizing i with
  | nil =>
    refine ⟨?_, fun there => absurd there (not_variableAt_nil i name)⟩
    rintro ⟨before, after, split, -⟩
    cases before <;> cases split
  | written other rest named ih =>
    rw [FoundAt, parts_source_append named, variableAt_source_append named]
    constructor
    · rintro ⟨before, after, split, rfl⟩
      rcases List.cons_eq_append_iff.mp split with ⟨rfl, front⟩ | ⟨later, rfl, back⟩
      · cases front
        exact .inl ⟨rfl, rfl⟩
      · refine .inr ⟨_, ?_, (ih _).mp ⟨later, after, back, rfl⟩⟩
        rw [List.flatMap_cons, List.length_append, length_source]
    · rintro (⟨rfl, rfl⟩ | ⟨k, rfl, there⟩)
      · exact ⟨[], parts rest, rfl, rfl⟩
      · obtain ⟨before, after, split, rfl⟩ := (ih k).mpr there
        refine ⟨.variable other :: before, after, by rw [split, List.cons_append], ?_⟩
        rw [List.flatMap_cons, List.length_append, length_source]
  | literal c rest absent ih =>
    rw [FoundAt, parts_cons absent, variableAt_cons absent]
    constructor
    · rintro ⟨before, after, split, rfl⟩
      rcases List.cons_eq_append_iff.mp split with ⟨rfl, front⟩ | ⟨later, rfl, back⟩
      · cases front
      · refine ⟨_, ?_, (ih _).mp ⟨later, after, back, rfl⟩⟩
        rw [List.flatMap_cons, List.length_append, Nat.add_comm, Part.source, List.length_singleton]
    · rintro ⟨k, rfl, there⟩
      obtain ⟨before, after, split, rfl⟩ := (ih k).mpr there
      refine ⟨.literal c :: before, after, by rw [split, List.cons_append], ?_⟩
      rw [List.flatMap_cons, List.length_append, Nat.add_comm, Part.source, List.length_singleton]

/-! ## Names -/

theorem names_source_append {name : Text} (named : IsName name) (rest : Text) :
    names ((Part.variable name).source ++ rest) = name :: names rest := by
  rw [names, parts_source_append named, List.filterMap_cons]
  rfl

theorem names_cons {c : CodePoint} {rest : Text}
    (absent : ∀ name, ¬ VariableAt (c :: rest) 0 name) : names (c :: rest) = names rest := by
  rw [names, parts_cons absent, List.filterMap_cons]
  rfl

theorem mem_names_iff {t name : Text} : name ∈ names t ↔ ∃ i, VariableAt t i name := by
  simp only [← foundAt_iff]
  rw [names, List.mem_filterMap]
  constructor
  · rintro ⟨part, member, named⟩
    cases part with
    | literal c => cases named
    | «variable» other =>
      cases named
      obtain ⟨before, after, split⟩ := List.append_of_mem member
      exact ⟨_, before, after, split, rfl⟩
  · rintro ⟨_, before, after, split, -⟩
    refine ⟨.variable name, ?_, rfl⟩
    rw [split]
    exact List.mem_append_right before List.mem_cons_self

/-! ## Filling -/

theorem fill_source_append {lookup : Text → Option Text} {name : Text} (named : IsName name)
    (rest : Text) :
    fill lookup ((Part.variable name).source ++ rest) =
      (lookup name).getD (Part.variable name).source ++ fill lookup rest := by
  rw [fill, parts_source_append named, List.flatMap_cons, Part.fill, fill]

theorem fill_cons {lookup : Text → Option Text} {c : CodePoint} {rest : Text}
    (absent : ∀ name, ¬ VariableAt (c :: rest) 0 name) :
    fill lookup (c :: rest) = c :: fill lookup rest := by
  rw [fill, parts_cons absent, List.flatMap_cons, Part.fill, fill, List.singleton_append]

/-- What holds no opening brace is passed over. -/
theorem fill_append_of_not_mem {lookup : Text → Option Text} {u : Text}
    (plain : CodePoint.ofChar '{' ∉ u) (rest : Text) :
    fill lookup (u ++ rest) = u ++ fill lookup rest := by
  induction u with
  | nil => rfl
  | cons c u ih =>
    rw [List.mem_cons, not_or] at plain
    rw [List.cons_append, fill_cons (not_variableAt_of_ne (Ne.symm plain.1) _), ih plain.2,
      List.cons_append]

theorem fill_of_not_mem {lookup : Text → Option Text} {t : Text}
    (plain : CodePoint.ofChar '{' ∉ t) : fill lookup t = t := by
  have filled := @fill_append_of_not_mem lookup t plain []
  rwa [List.append_nil, show fill lookup [] = [] from rfl, List.append_nil] at filled

end SearchTuning.Template

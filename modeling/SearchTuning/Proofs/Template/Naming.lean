import SearchTuning.Proofs.Template.Locality
import SearchTuning.Proofs.Variables

/-!
# Names that are taken and names that can be used

A name can be used if, between braces, it comes to the value of its variable.  The names that can be
used are the words.  The store of variables takes a word, and takes it too with one line break
behind it: such a name is held, but no template can use it.
-/

namespace SearchTuning

open Template

/-- The line break that a name may end with. -/
def lineBreak : CodePoint := CodePoint.ofChar '\n'

theorem not_isName_append_lineBreak (word : Text) : ¬ IsName (word ++ [lineBreak]) := by
  intro whole
  exact absurd (whole.2 lineBreak (List.mem_append_right word List.mem_cons_self)) (by decide)

namespace VariableName

theorem isValid_iff {name : Text} :
    isValid name = true ↔ IsName name ∨ ∃ word, IsName word ∧ name = word ++ [lineBreak] := by
  have named {word : Text} :
      (decide (word ≠ []) && word.all CodePoint.isWord) = true ↔ IsName word := by
    rw [Bool.and_eq_true, decide_eq_true_iff, List.all_eq_true, IsName]
  rw [isValid]
  by_cases ended : name.getLast? = some lineBreak
  · obtain ⟨word, rfl⟩ := List.getLast?_eq_some_iff.mp ended
    simp only [show CodePoint.ofChar '\n' = lineBreak from rfl, if_pos ended, List.dropLast_concat,
      named, not_isName_append_lineBreak, false_or]
    constructor
    · exact fun valid => ⟨word, valid, rfl⟩
    · rintro ⟨other, valid, same⟩
      obtain ⟨rfl, -⟩ := List.append_inj' same rfl
      exact valid
  · simp only [show CodePoint.ofChar '\n' = lineBreak from rfl, if_neg ended, named]
    refine ⟨.inl, ?_⟩
    rintro (whole | ⟨word, -, rfl⟩)
    · exact whole
    · exact absurd List.getLast?_concat ended

end VariableName

namespace Args

variable [Platform]

/-- Between braces, the name comes to the value of its variable, whatever that is. -/
def Usable (escape : Text → Text) (name : Text) : Prop :=
  ∀ value, substituteWith escape none (VariableMap.bindings [(name, value)])
    (Part.variable name).source = .ok value

theorem usable_iff {escape : Text → Text} {name : Text} : Usable escape name ↔ IsName name := by
  constructor
  · intro usable
    by_contra unnamed
    -- No variable is written with the only name that has a value, so the text stays as it is.
    have absent : ∀ entry ∈ [(name, ([] : Text))], ∀ start,
        ¬ VariableAt (Part.variable name).source start entry.1 := by
      rintro entry member start ⟨named, -⟩
      rw [List.mem_singleton.mp member] at named
      exact unnamed named
    have stays := usable []
    rw [substituteWith_bindings, substitute, fill_eq_filledPlaces, filledPlaces_of_absent absent,
      Part.source] at stays
    cases Except.ok.inj stays
  · intro named value
    have found : VariableMap.lookup [(name, value)] name = some value := if_pos rfl
    rw [substituteWith_bindings, substitute, fill_eq_filledPlaces, filledPlaces_source named, found,
      Option.getD_some]

end Args

namespace Variables

section

variable [Platform]

/-- A value that can be shown is given to the names that are accepted. -/
theorem exists_set_iff {vars : Variables} {name : Text} {value : Json} {text : Text}
    (shown : value.display = .ok text) :
    (∃ after, vars.set (.str name) value = .ok after) ↔ VariableName.isValid name = true := by
  constructor
  · rintro ⟨after, changed⟩
    obtain ⟨given, _, same, valid, -⟩ := set_eq_ok changed
    cases same
    exact valid
  · intro valid
    rw [set, shown]
    exact ⟨_, bind_of_eq_ok (VariableName.check_of_isValid valid) _⟩

/-- A value is given to a name that can be used, and to one that is such a name with a line break
behind it, which cannot be used.  So a name is taken just when it can be used, unless it is of the
second kind; and a name that is not taken is refused as no name.  All this is said of a value that
can be shown, whatever it is; any other is refused, whatever the name is. -/
theorem set_takes_usable_or_ended (escape : Text → Text) (vars : Variables) (name : Text)
    (value : Json) :
    (∀ text, value.display = .ok text →
      ((∃ after, vars.set (.str name) value = .ok after) ↔ Args.Usable escape name ∨
        ∃ word, Args.Usable escape word ∧ name = word ++ [lineBreak]) ∧
      (((∃ after, vars.set (.str name) value = .ok after) ↔ Args.Usable escape name) ↔
        ¬ ∃ word, Args.Usable escape word ∧ name = word ++ [lineBreak]) ∧
      ((∃ after, vars.set (.str name) value = .ok after) ∨
        vars.set (.str name) value = .error (.invalidVariableName (.str name)))) ∧
    ∀ e, value.display = .error e → vars.set (.str name) value = .error e := by
  refine ⟨fun text shown => ?_, fun e unshown => ?_⟩
  · have taken : (∃ after, vars.set (.str name) value = .ok after) ↔ Args.Usable escape name ∨
        ∃ word, Args.Usable escape word ∧ name = word ++ [lineBreak] := by
      rw [exists_set_iff shown, VariableName.isValid_iff]
      simp only [Args.usable_iff]
    refine ⟨taken, ?_, ?_⟩
    · rw [taken]
      constructor
      · rintro same ⟨word, usable, rfl⟩
        have whole := Args.usable_iff.mp (same.mp (.inr ⟨word, usable, rfl⟩))
        exact not_isName_append_lineBreak word whole
      · exact fun other => or_iff_left other
    · by_cases valid : VariableName.isValid name = true
      · exact .inl ((exists_set_iff shown).mpr valid)
      · rw [set, shown, VariableName.check, if_neg valid]
        exact .inr rfl
  · rw [set, unshown]
    rfl

end

/-- A letter with a line break behind it is taken and cannot be used. -/
theorem set_takes_unusable :
    letI := Platform.usual
    (∃ after, (⟨[], 0⟩ : Variables).set (.str ['a', '\n']) (.str ['1']) = .ok after) ∧
      ¬ Args.Usable id ['a', '\n'] := by
  let _ := Platform.usual
  refine ⟨(exists_set_iff rfl).mpr (by decide), fun usable => ?_⟩
  have stays := usable ['1']
  revert stays
  decide

end Variables

end SearchTuning

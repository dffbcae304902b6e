import SearchTuning.Proofs.Json.Walk
import SearchTuning.Proofs.Tries.Submitted

/-!
# Why submitted fields are refused

A record is refused for what its fields are refused for, and for nothing else.  So the check of
submitted fields uses up the stack only where a variable is given a value with too many levels to be
shown.
-/

namespace SearchTuning

/-! ## Causes -/

namespace Checked

variable {α β : Type}

/-- Why a value is refused. -/
def causes : Checked α → List Refusal
  | .valid _ => []
  | .refused faults => faults.map FieldError.refusal

theorem causes_seq (f : Checked (α → β)) (x : Checked α) :
    (f <*> x).causes = f.causes ++ x.causes := by
  change (f.apply fun _ => x).causes = _
  cases f <;> cases x <;> simp [apply, causes]

theorem causes_map (f : α → β) (x : Checked α) : (f <$> x).causes = x.causes :=
  causes_seq (.valid f) x

theorem causes_taken (key : Text) (coerce : Json → Except Refusal α) (v : Json) :
    (Record.taken key coerce v).causes =
      match coerce v with
      | .ok _ => []
      | .error refusal => [refusal] := by
  rw [Record.taken]
  cases coerce v <;> rfl

end Checked

/-- A field is refused for what its value is refused for. -/
theorem TryField.exists_of_mem_causes {α : Type} {field : TryField}
    {coerce : Json → Except Refusal α} {members : Record.Members} {cause : Refusal}
    (refused : cause ∈ (field.read coerce members).causes) :
    ∃ key v, field.find? members = some (key, v) ∧ coerce v = .error cause := by
  rw [read] at refused
  split at refused
  · cases refused
  · next key v found =>
    refine ⟨key, v, found, ?_⟩
    rw [Checked.causes_taken, Coerce.optional.eq_def] at refused
    split at refused
    · cases refused
    · next refusal failed =>
      cases List.mem_singleton.mp refused
      split at failed
      · cases failed
      · exact map_eq_error failed

/-! ## The stack -/

namespace Coerce

theorem text_ne_outOfStack (v : Json) : text v ≠ .error .outOfStack := by
  rw [text.eq_def]
  split <;> nofun

theorem engine_ne_outOfStack (v : Json) : engine v ≠ .error .outOfStack := by
  rw [engine.eq_def]
  split
  · split
    · nofun
    · split <;> nofun
  · nofun

theorem boolOfInt_ne_outOfStack (n : Int) : boolOfInt n ≠ .error .outOfStack := by
  rw [boolOfInt]
  split
  · nofun
  split
  · nofun
  split <;> nofun

theorem bool_ne_outOfStack (v : Json) : bool v ≠ .error .outOfStack := by
  rw [bool.eq_def]
  split
  · nofun
  · exact boolOfInt_ne_outOfStack _
  · split
    · split
      · nofun
      · exact boolOfInt_ne_outOfStack _
    · nofun
  · split
    · nofun
    · split <;> nofun
  · nofun

theorem intOfText_ne_outOfStack (t : Text) : intOfText t ≠ .error .outOfStack := by
  rw [intOfText]
  split
  · nofun
  split
  · nofun
  split
  · nofun
  · rw [intOfTidied]
    split <;> nofun
  · nofun

theorem int_ne_outOfStack (v : Json) : int v ≠ .error .outOfStack := by
  rw [int.eq_def]
  split
  · nofun
  · nofun
  · split
    · split
      · split <;> nofun
      · nofun
    · nofun
  · exact intOfText_ne_outOfStack _
  · nofun

theorem count_ne_outOfStack (v : Json) : count v ≠ .error .outOfStack := by
  intro failed
  rcases bind_eq_error failed with whole | ⟨n, -, negative⟩
  · exact int_ne_outOfStack v whole
  · split at negative <;> cases negative

end Coerce

variable [Platform]

/-- Where a value cannot be shown for want of room, it has too many levels. -/
theorem Json.lt_levels_of_display {v : Json} (failed : v.display = .error .outOfStack) :
    Platform.showing < v.levels := by
  rw [display.eq_def] at failed
  split at failed
  · cases failed
  · rcases bind_eq_error failed with walked | ⟨-, -, impossible⟩
    · have scalars : ∀ s, Walk.showing.scalar s ≠ .error Walk.showing.full := by
        intro s full
        cases s with
        | int n =>
          change (if Numeral.fits n then _ else _) = Except.error Error.outOfStack at full
          split at full <;> cases full
        | _ => cases full
      exact Walk.lt_levels_of_check scalars nofun walked
    · cases impossible

namespace TryFields

/-- One of the variables that members give has a value with too many levels to be shown. -/
def Unshown (members : Record.Members) : Prop :=
  ∃ key entries, TryField.curatorVars.find? members = some (key, .obj entries) ∧
    ∃ entry ∈ entries, Platform.showing < entry.2.levels

theorem variableOfJson_eq_outOfStack {entry : Text × Json}
    (failed : variableOfJson entry = .error .outOfStack) :
    entry.2.display = .error .outOfStack := by
  obtain ⟨name, v⟩ := entry
  rcases bind_eq_error failed with unshown | ⟨text, -, impossible⟩
  · change v.display = _
    cases shown : v.display with
    | ok text =>
      rw [shown] at unshown
      cases unshown
    | error e =>
      rw [shown] at unshown
      cases e <;> first | rfl | cases unshown
  · cases impossible

/-- The check of submitted fields uses up the stack only for variables. -/
theorem unshown_of_mem_causes {members : Record.Members}
    (refused : Refusal.outOfStack ∈ (ofMembers members).causes) : Unshown members := by
  simp only [ofMembers, Checked.causes_seq, Checked.causes_map, List.mem_append] at refused
  obtain ⟨key, v, found, failed⟩ :
      ∃ key v, TryField.curatorVars.find? members = some (key, v) ∧
        variablesOfJson v = .error .outOfStack := by
    rcases refused with
      ((((((name | engine) | searchUrl) | fieldSpec) | queryParams) | escapeQuery) | rows) | vars
    · obtain ⟨_, v, -, failed⟩ := TryField.exists_of_mem_causes name
      exact absurd failed (Coerce.text_ne_outOfStack v)
    · obtain ⟨_, v, -, failed⟩ := TryField.exists_of_mem_causes engine
      exact absurd failed (Coerce.engine_ne_outOfStack v)
    · obtain ⟨_, v, -, failed⟩ := TryField.exists_of_mem_causes searchUrl
      exact absurd failed (Coerce.text_ne_outOfStack v)
    · obtain ⟨_, v, -, failed⟩ := TryField.exists_of_mem_causes fieldSpec
      exact absurd failed (Coerce.text_ne_outOfStack v)
    · obtain ⟨_, v, -, failed⟩ := TryField.exists_of_mem_causes queryParams
      exact absurd failed (Coerce.text_ne_outOfStack v)
    · obtain ⟨_, v, -, failed⟩ := TryField.exists_of_mem_causes escapeQuery
      exact absurd failed (Coerce.bool_ne_outOfStack v)
    · obtain ⟨_, v, -, failed⟩ := TryField.exists_of_mem_causes rows
      exact absurd failed (Coerce.count_ne_outOfStack v)
    · exact TryField.exists_of_mem_causes vars
  rw [variablesOfJson.eq_def] at failed
  split at failed
  · next entries =>
    obtain ⟨entry, member, unshown⟩ := exists_of_mapM_eq_error failed
    have levels := Json.lt_levels_of_display (variableOfJson_eq_outOfStack unshown)
    exact ⟨key, entries, found, entry, member, levels⟩
  · cases failed

end TryFields

/-- What submitted fields are refused for is told, unless a variable has too many levels to be
shown. -/
theorem Submission.forCreate_members_eq_error {members : Record.Members} {e : Error}
    (failed : (Submission.unread (.obj members)).forCreate = .error e) :
    (∃ report faults, e = .invalidFields report faults) ∨
      e = .outOfStack ∧ TryFields.Unshown members := by
  change (TryFields.ofMembers members).toExcept.mapError _ = _ at failed
  cases checked : TryFields.ofMembers members with
  | valid fields =>
    rw [checked] at failed
    cases failed
  | refused faults =>
    rw [checked] at failed
    change Except.error (Error.ofFaults _ _ _ faults) = _ at failed
    rw [Error.ofFaults] at failed
    split at failed
    · next any =>
      cases failed
      obtain ⟨fault, member, cause⟩ := List.any_eq_true.mp any
      refine .inr ⟨rfl, TryFields.unshown_of_mem_causes ?_⟩
      rw [checked, Checked.causes, ← of_decide_eq_true cause]
      exact List.mem_map_of_mem member
    · cases failed
      exact .inl ⟨_, faults, rfl⟩

end SearchTuning

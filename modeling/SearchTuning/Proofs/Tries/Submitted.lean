import SearchTuning.Proofs.Table
import SearchTuning.Tries.Submitted

/-!
# Submitted fields, one by one

The members of an object are read field by field, each under its own two keys.  So writing the
member of one field leaves what is read of all others.
-/

namespace SearchTuning

namespace Checked

variable {α β : Type}

/-- A function that is checked and applied is valid just when both parts are. -/
theorem seq_eq_valid {f : Checked (α → β)} {x : Checked α} {b : β} :
    f <*> x = .valid b ↔ ∃ g a, f = .valid g ∧ x = .valid a ∧ g a = b := by
  change f.apply (fun _ => x) = .valid b ↔ _
  cases f <;> cases x <;> simp [apply]

theorem map_eq_valid {f : α → β} {x : Checked α} {b : β} :
    f <$> x = .valid b ↔ ∃ a, x = .valid a ∧ f a = b := by
  change (pure f : Checked (α → β)).apply (fun _ => x) = .valid b ↔ _
  cases x <;> simp [apply, pure]

theorem ofExcept_eq_valid {result : Except Refusal α} {a : α} :
    ofExcept result = .valid a ↔ result = .ok a := by
  cases result <;> simp [ofExcept]

theorem under_eq_valid {key : Text} {x : Checked α} {a : α} :
    x.under key = .valid a ↔ x = .valid a := by
  cases x <;> simp [under]

theorem toExcept_eq_ok {x : Checked α} {a : α} : x.toExcept = .ok a ↔ x = .valid a := by
  cases x <;> simp [toExcept]

end Checked

namespace TryField

/-- No key is the first spelling of one field and any spelling of another. -/
theorem camel_ne {field other : TryField} (apart : other ≠ field) :
    field.camel ≠ other.camel ∧ field.camel ≠ other.snake := by
  revert apart
  cases field <;> cases other <;> decide

theorem find?_insert_of_ne {field other : TryField} (apart : other ≠ field) (v : Json)
    (members : Record.Members) :
    other.find? (Table.insert field.camel v members) = other.find? members := by
  obtain ⟨camel, snake⟩ := camel_ne apart
  rw [find?, find?, Table.get?_insert_of_ne camel, Table.get?_insert_of_ne snake]

theorem find?_insert_self (field : TryField) (v : Json) (members : Record.Members) :
    field.find? (Table.insert field.camel v members) = some (field.camel, v) := by
  rw [find?, Table.get?_insert_self]

theorem mem_of_find? {field : TryField} {members : Record.Members} {entry : Text × Json}
    (found : field.find? members = some entry) : entry ∈ members := by
  rw [find?] at found
  split at found
  · next here =>
    cases found
    exact Table.mem_of_get? here
  · obtain ⟨v, here, rfl⟩ := Option.map_eq_some_iff.mp found
    exact Table.mem_of_get? here

end TryField

namespace TryFields

/-- Names and values as an object. -/
def objectOfVariables (vars : Table Text Text) : Json :=
  .obj (vars.map fun (name, value) => (name, .str value))

/-- Texts are taken as variables whatever room there is. -/
theorem variablesOfJson_objectOfVariables [Platform] (vars : Table Text Text) :
    variablesOfJson (objectOfVariables vars) = .ok vars := by
  rw [objectOfVariables, variablesOfJson]
  induction vars with
  | nil => rfl
  | cons entry vars ih =>
    rw [List.map_cons, List.mapM_cons, ih]
    rfl

end TryFields

end SearchTuning

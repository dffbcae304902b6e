import SearchTuning.Proofs.Results
import SearchTuning.Proofs.Tries.Submitted

/-!
# What a submission gives

The fields that a submission gives, said of its members and not by reading them.  A field that is
not there or is `null` gives nothing; any other must be of its kind.  What is read is what is given,
and a submission that gives no fields is refused.
-/

namespace SearchTuning

/-! ## Fields -/

namespace TryField

variable {α : Type} {field : TryField} {coerce : Json → Except Refusal α} {members : Record.Members}

/-- What members give for a field. -/
inductive Takes (field : TryField) (coerce : Json → Except Refusal α) (members : Record.Members) :
    Option α → Prop where
  | absent (missing : field.find? members = none) : Takes field coerce members none
  | null {key : Text} (found : field.find? members = some (key, .null)) :
      Takes field coerce members none
  | given {key : Text} {v : Json} {a : α} (found : field.find? members = some (key, v))
      (some_value : v ≠ .null) (coerced : coerce v = .ok a) : Takes field coerce members (some a)

theorem optional_of_ne_null {v : Json} (some_value : v ≠ .null) :
    Coerce.optional coerce v = (coerce v).map some := by
  rw [Coerce.optional.eq_def]
  split
  · exact absurd rfl some_value
  · rfl

theorem read_eq_valid_iff {value : Option α} :
    field.read coerce members = .valid value ↔ field.Takes coerce members value := by
  rw [read]
  constructor
  · intro read
    split at read
    · next missing =>
      cases read
      exact .absent missing
    · next key v found =>
      rw [Record.taken, Checked.under_eq_valid, Checked.ofExcept_eq_valid] at read
      by_cases null : v = .null
      · rw [null] at found read
        cases read
        exact .null found
      · rw [optional_of_ne_null null] at read
        obtain ⟨a, coerced, rfl⟩ := exists_of_map_eq_ok read
        exact .given found null coerced
  · intro takes
    cases takes with
    | absent missing => rw [missing]
    | null found =>
      rw [found]
      rfl
    | given found some_value coerced =>
      rw [found]
      change Record.taken _ _ _ = _
      rw [Record.taken, Checked.under_eq_valid, Checked.ofExcept_eq_valid,
        optional_of_ne_null some_value, coerced]
      rfl

theorem Takes.of_find?_eq {value : Option α} (takes : field.Takes coerce members value)
    {others : Record.Members} (same : field.find? others = field.find? members) :
    field.Takes coerce others value := by
  cases takes with
  | absent missing => exact .absent (same.trans missing)
  | null found => exact .null (same.trans found)
  | given found some_value coerced => exact .given (same.trans found) some_value coerced

/-- What is given for a field is taken from a member. -/
theorem Takes.exists_member {a : α} (takes : field.Takes coerce members (some a)) :
    ∃ member ∈ members, coerce member.2 = .ok a := by
  cases takes with
  | given found _ coerced => exact ⟨_, mem_of_find? found, coerced⟩

end TryField

variable [Platform]

namespace TryFields

/-- The fields that members give, each by itself. -/
structure TakenFrom (members : Record.Members) (fields : TryFields) : Prop where
  name : TryField.name.Takes Coerce.text members fields.name
  engine : TryField.searchEngine.Takes Coerce.engine members fields.engine
  searchUrl : TryField.searchUrl.Takes Coerce.text members fields.searchUrl
  fieldSpec : TryField.fieldSpec.Takes Coerce.text members fields.fieldSpec
  queryParams : TryField.queryParams.Takes Coerce.text members fields.queryParams
  escapeQuery : TryField.escapeQuery.Takes Coerce.bool members fields.escapeQuery
  numberOfRows : TryField.numberOfRows.Takes Coerce.count members fields.numberOfRows
  /-- Variables may have any values, which are taken as texts. -/
  curatorVars : ∃ given, TryField.curatorVars.Takes variablesOfJson members given ∧
    fields.curatorVars = given.getD []

theorem ofMembers_eq_valid_iff {members : Record.Members} {fields : TryFields} :
    ofMembers members = .valid fields ↔ TakenFrom members fields := by
  simp only [ofMembers, Checked.seq_eq_valid, Checked.map_eq_valid, TryField.read_eq_valid_iff]
  constructor
  · rintro ⟨_, _, ⟨_, _, ⟨_, _, ⟨_, _, ⟨_, _, ⟨_, _, ⟨_, _, ⟨_, name, rfl⟩, engine, rfl⟩, searchUrl,
      rfl⟩, fieldSpec, rfl⟩, queryParams, rfl⟩, escapeQuery, rfl⟩, numberOfRows, rfl⟩,
      ⟨given, vars, rfl⟩, rfl⟩
    exact ⟨name, engine, searchUrl, fieldSpec, queryParams, escapeQuery, numberOfRows, given, vars,
      rfl⟩
  · rintro ⟨name, engine, searchUrl, fieldSpec, queryParams, escapeQuery, numberOfRows, given, vars,
      eq⟩
    exact ⟨_, _, ⟨_, _, ⟨_, _, ⟨_, _, ⟨_, _, ⟨_, _, ⟨_, _, ⟨_, name, rfl⟩, engine, rfl⟩, searchUrl,
      rfl⟩, fieldSpec, rfl⟩, queryParams, rfl⟩, escapeQuery, rfl⟩, numberOfRows, rfl⟩,
      ⟨given, vars, eq.symm⟩, rfl⟩

/-- Writing the member of the variables replaces them, and no other field. -/
theorem TakenFrom.insert_curatorVars {members : Record.Members} {fields : TryFields}
    (taken : TakenFrom members fields) (vars : Table Text Text) :
    TakenFrom (Table.insert TryField.curatorVars.camel (objectOfVariables vars) members)
      { fields with curatorVars := vars } where
  name := taken.name.of_find?_eq (TryField.find?_insert_of_ne (by decide) _ _)
  engine := taken.engine.of_find?_eq (TryField.find?_insert_of_ne (by decide) _ _)
  searchUrl := taken.searchUrl.of_find?_eq (TryField.find?_insert_of_ne (by decide) _ _)
  fieldSpec := taken.fieldSpec.of_find?_eq (TryField.find?_insert_of_ne (by decide) _ _)
  queryParams := taken.queryParams.of_find?_eq (TryField.find?_insert_of_ne (by decide) _ _)
  escapeQuery := taken.escapeQuery.of_find?_eq (TryField.find?_insert_of_ne (by decide) _ _)
  numberOfRows := taken.numberOfRows.of_find?_eq (TryField.find?_insert_of_ne (by decide) _ _)
  curatorVars :=
    ⟨some vars, .given (TryField.find?_insert_self _ _ _) nofun
      (variablesOfJson_objectOfVariables vars), rfl⟩

end TryFields

/-! ## Submissions -/

namespace Submission

/-- The fields that a submission gives. -/
inductive Gives : Submission → TryFields → Prop where
  | absent : Gives .absent TryFields.empty
  | null : Gives (.unread .null) TryFields.empty
  | checked (fields : TryFields) : Gives (.checked fields) fields
  | members {v : Json} {members : Record.Members} {fields : TryFields} (some_value : v ≠ .null)
      (listed : membersOfJson v = .ok members) (taken : TryFields.TakenFrom members fields) :
      Gives (.unread v) fields

theorem forCreate_unread {v : Json} (some_value : v ≠ .null) :
    (Submission.unread v).forCreate =
      (membersOfJson v >>= fun members =>
        (TryFields.ofMembers members).toExcept.mapError
          (Error.ofFaults .invalidFields "TryFields" (.obj members))) := by
  rw [forCreate.eq_def]
  split
  · next eq => cases eq
  · next eq => exact absurd (unread.inj eq) some_value
  · next eq => cases eq
  · next eq =>
    cases eq
    rfl

/-- Just the fields that a submission gives are taken for a new try. -/
theorem forCreate_eq_ok_iff {submission : Submission} {fields : TryFields} :
    submission.forCreate = .ok fields ↔ submission.Gives fields := by
  constructor
  · intro read
    cases submission with
    | absent =>
      cases read
      exact .absent
    | checked given =>
      cases read
      exact .checked fields
    | unread v =>
      by_cases null : v = .null
      · rw [null] at read ⊢
        cases read
        exact .null
      · rw [forCreate_unread null] at read
        obtain ⟨members, listed, read⟩ := exists_of_bind_eq_ok read
        rw [mapError_eq_ok, Checked.toExcept_eq_ok, TryFields.ofMembers_eq_valid_iff] at read
        exact .members null listed read
  · intro gives
    cases gives with
    | absent => rfl
    | null => rfl
    | checked => rfl
    | members some_value listed taken =>
      rw [forCreate_unread some_value, bind_of_eq_ok listed, mapError_eq_ok,
        Checked.toExcept_eq_ok, TryFields.ofMembers_eq_valid_iff]
      exact taken

theorem forCreate_insert_curatorVars {members : Record.Members} {fields : TryFields}
    (read : (Submission.unread (.obj members)).forCreate = .ok fields) (vars : Table Text Text) :
    (Submission.unread (.obj (Table.insert TryField.curatorVars.camel
      (TryFields.objectOfVariables vars) members))).forCreate =
        .ok { fields with curatorVars := vars } := by
  cases forCreate_eq_ok_iff.mp read with
  | members some_value listed taken =>
    cases listed
    exact forCreate_eq_ok_iff.mpr (.members nofun rfl (taken.insert_curatorVars vars))

end Submission

end SearchTuning

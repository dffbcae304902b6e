import SearchTuning.Proofs.Store.Numbering
import SearchTuning.Proofs.Tries.Taken

/-!
# The spelling of fields

Fields can be handed over under either of their two spellings, in any order and among any other
keys, and a field that is `null` is as good as absent.  None of this makes a difference to the
making of a try, except that a fault is told under the key that was used.
-/

namespace SearchTuning

/-! ## Spellings -/

namespace TryField

/-- The spellings of a field. -/
inductive Spelling (field : TryField) : Text → Prop where
  | camel : Spelling field field.camel
  | snake : Spelling field field.snake

/-- The value that members have for a field under either spelling, `null` if they have none. -/
inductive Reads (field : TryField) (members : Record.Members) : Json → Prop where
  | spelled {key : Text} {v : Json} (spelling : field.Spelling key)
      (found : Table.get? key members = some v) : Reads field members v
  | absent (no_camel : Table.get? field.camel members = none)
      (no_snake : Table.get? field.snake members = none) : Reads field members .null

/-- Members have no field under two spellings. -/
def SpelledOnce (members : Record.Members) : Prop :=
  ∀ field : TryField, field.camel ≠ field.snake →
    Table.get? field.camel members = none ∨ Table.get? field.snake members = none

variable {field : TryField} {members : Record.Members}

theorem find?_of_spelling (once : SpelledOnce members) {key : Text} {v : Json}
    (spelling : field.Spelling key) (found : Table.get? key members = some v) :
    ∃ used, field.Spelling used ∧ field.find? members = some (used, v) := by
  cases spelling with
  | camel =>
    refine ⟨field.camel, .camel, ?_⟩
    rw [find?, found]
  | snake =>
    by_cases same : field.camel = field.snake
    · refine ⟨field.camel, .camel, ?_⟩
      rw [find?, same, found]
    · have missing : Table.get? field.camel members = none := by
        rcases once field same with missing | missing
        · exact missing
        · cases missing.symm.trans found
      refine ⟨field.snake, .snake, ?_⟩
      rw [find?, missing, found]
      rfl

/-- A field is read as its value is taken, under one of its spellings. -/
theorem read_of_reads (once : SpelledOnce members) {v : Json} (reads : field.Reads members v)
    {α : Type} (coerce : Json → Except Refusal α) :
    ∃ key, field.Spelling key ∧
      field.read coerce members = Record.taken key (Coerce.optional coerce) v := by
  cases reads with
  | spelled spelling found =>
    obtain ⟨used, spelling, found⟩ := find?_of_spelling once spelling found
    refine ⟨used, spelling, ?_⟩
    rw [read, found]
  | absent no_camel no_snake =>
    have none : field.find? members = none := by
      rw [find?, no_camel, no_snake]
      rfl
    refine ⟨field.camel, .camel, ?_⟩
    rw [read, none]
    rfl

end TryField

/-! ## Faults -/

/-- Two faults of one field for one cause, each told under a spelling of the field. -/
inductive FieldError.Alike : FieldError → FieldError → Prop where
  | field {field : TryField} {key other : Text} (spelling : field.Spelling key)
      (otherwise : field.Spelling other) (refusal : Refusal) : Alike ⟨[key], refusal⟩ ⟨[other], refusal⟩

/-- Faults that are alike have the same causes. -/
theorem FieldError.Alike.any_refusal {faults others : List FieldError}
    (told : List.Forall₂ FieldError.Alike faults others) (cause : Refusal → Bool) :
    (faults.any fun fault => cause fault.refusal) = others.any fun fault => cause fault.refusal := by
  induction told with
  | nil => rfl
  | cons alike _ ih =>
    cases alike
    rw [List.any_cons, List.any_cons, ih]

namespace Checked

variable {α β : Type}

/-- The same value, or faults that are alike one by one. -/
inductive Alike : Checked α → Checked α → Prop where
  | valid (a : α) : Alike (.valid a) (.valid a)
  | refused {faults others : List FieldError} (told : List.Forall₂ FieldError.Alike faults others) :
      Alike (.refused faults) (.refused others)

theorem Alike.seq {f g : Checked (α → β)} {x y : Checked α} (function : f.Alike g)
    (argument : x.Alike y) : (f <*> x).Alike (g <*> y) := by
  cases function with
  | valid f =>
    cases argument with
    | valid a => exact .valid (f a)
    | refused told => exact .refused told
  | refused told =>
    cases argument with
    | valid a => exact .refused told
    | refused more => exact .refused (List.rel_append told more)

theorem Alike.map {x y : Checked α} (f : α → β) (argument : x.Alike y) :
    (f <$> x).Alike (f <$> y) :=
  Alike.seq (.valid f) argument

theorem alike_taken {field : TryField} {key other : Text} (spelling : field.Spelling key)
    (otherwise : field.Spelling other) (coerce : Json → Except Refusal α) (v : Json) :
    (Record.taken key coerce v).Alike (Record.taken other coerce v) := by
  rw [Record.taken, Record.taken]
  cases coerce v with
  | ok a => exact .valid a
  | error refusal => exact .refused (.cons (.field spelling otherwise refusal) .nil)

end Checked

/-! ## Members with the same fields -/

/-- Members that have no field under two spellings, and in which each field has the same value. -/
structure SameFields (one two : Record.Members) : Prop where
  one_once : TryField.SpelledOnce one
  two_once : TryField.SpelledOnce two
  same : ∀ field : TryField, ∃ v, field.Reads one v ∧ field.Reads two v

namespace SameFields

variable {one two : Record.Members}

theorem alike_read (fields : SameFields one two) (field : TryField) {α : Type}
    (coerce : Json → Except Refusal α) : (field.read coerce one).Alike (field.read coerce two) := by
  obtain ⟨v, inOne, inTwo⟩ := fields.same field
  obtain ⟨key, spelling, read_one⟩ := TryField.read_of_reads fields.one_once inOne coerce
  obtain ⟨other, otherwise, read_two⟩ := TryField.read_of_reads fields.two_once inTwo coerce
  rw [read_one, read_two]
  exact Checked.alike_taken spelling otherwise _ v

theorem alike_ofMembers [Platform] (fields : SameFields one two) :
    (TryFields.ofMembers one).Alike (TryFields.ofMembers two) := by
  have name := (fields.alike_read .name Coerce.text).map TryFields.mk
  have engine := name.seq (fields.alike_read .searchEngine Coerce.engine)
  have searchUrl := engine.seq (fields.alike_read .searchUrl Coerce.text)
  have fieldSpec := searchUrl.seq (fields.alike_read .fieldSpec Coerce.text)
  have queryParams := fieldSpec.seq (fields.alike_read .queryParams Coerce.text)
  have escapeQuery := queryParams.seq (fields.alike_read .escapeQuery Coerce.bool)
  have numberOfRows := escapeQuery.seq (fields.alike_read .numberOfRows Coerce.count)
  have curatorVars := fields.alike_read .curatorVars TryFields.variablesOfJson
  exact numberOfRows.seq (curatorVars.map (·.getD []))

end SameFields

/-! ## Making a try -/

theorem Submission.forCreate_members [Platform] (members : Record.Members) :
    (Submission.unread (.obj members)).forCreate =
      (TryFields.ofMembers members).toExcept.mapError
        (Error.ofFaults .invalidFields "TryFields" (.obj members)) := rfl

/-- Of faults that are alike, either both use up the stack, or both are told. -/
theorem Error.ofFaults_of_alike [Platform] {faults others : List FieldError}
    (told : List.Forall₂ FieldError.Alike faults others)
    (refusal : Text → List FieldError → Error) (record : String) (v w : Json) :
    Error.ofFaults refusal record v faults = Error.ofFaults refusal record w others ∨
      ∃ report report', Error.ofFaults refusal record v faults = refusal report faults ∧
        Error.ofFaults refusal record w others = refusal report' others := by
  have cause := FieldError.Alike.any_refusal told fun refusal => decide (refusal = .outOfStack)
  rw [Error.ofFaults, Error.ofFaults, cause]
  split
  · exact .inl rfl
  · exact .inr ⟨_, _, rfl, rfl⟩

namespace Lifecycle

section

variable [Platform] {config : Config} {session : Session} {caseId : Int}

/-- The program of a creation depends on what is handed over only through its fields. -/
theorem program_createTry (config : Config) (caseId : Int) (submission : Submission) :
    (Command.createTry caseId submission).program config =
      .view <$> (Program.ofExcept submission.forCreate >>= fun fields =>
        createTry config caseId (.checked fields)) := rfl

/-- Members whose fields are taken make a try as the fields do. -/
theorem run_createTry_of_valid {members : Record.Members} {taken : TryFields}
    (valid : TryFields.ofMembers members = .valid taken) :
    (Command.createTry caseId (.unread (.obj members))).run config session =
      (Command.createTry caseId (.checked taken)).run config session := by
  rw [Command.run, program_createTry, Submission.forCreate_members, valid]
  rfl

/-- Members whose fields are refused make no try, and nothing else is looked at. -/
theorem run_createTry_of_refused {members : Record.Members} {faults : List FieldError}
    (refused : TryFields.ofMembers members = .refused faults) :
    (Command.createTry caseId (.unread (.obj members))).run config session =
      (.error (Error.ofFaults .invalidFields "TryFields" (.obj members) faults), session) := by
  rw [Command.run, program_createTry, Submission.forCreate_members, refused]
  rfl

/-- The making of a try reads the fields alone: from members in which each field has the same value,
under either of its spellings, absent or `null`, and whatever other keys there are, the same comes
of it in every state.  Where the fields are refused, nothing changes, and the faults are the same
but for the spelling of the fields; a report on them may word what was handed over. -/
theorem createTry_reads_fields_alone {one two : Record.Members} (fields : SameFields one two)
    (config : Config) (session : Session) (caseId : Int) :
    let create (members : Record.Members) :=
      (Command.createTry caseId (.unread (.obj members))).run config session
    create one = create two ∨
      ∃ report report' faults others, List.Forall₂ FieldError.Alike faults others ∧
        create one = (.error (.invalidFields report faults), session) ∧
        create two = (.error (.invalidFields report' others), session) := by
  intro create
  have alike := fields.alike_ofMembers
  generalize in_one : TryFields.ofMembers one = first at alike
  generalize in_two : TryFields.ofMembers two = second at alike
  cases alike with
  | valid taken =>
    left
    exact (run_createTry_of_valid in_one).trans (run_createTry_of_valid in_two).symm
  | refused told =>
    have first_ends : create one = _ := run_createTry_of_refused in_one
    have second_ends : create two = _ := run_createTry_of_refused in_two
    rw [first_ends, second_ends]
    rcases Error.ofFaults_of_alike told .invalidFields "TryFields" (.obj one) (.obj two) with
      same | ⟨report, report', refused, refused'⟩
    · left
      rw [same]
    · right
      rw [refused, refused']
      exact ⟨report, report', _, _, told, rfl, rfl⟩

end

/-- One value is written under its other spelling, one that was `null` is left out, and keys that
are no field come and go. -/
theorem createTry_reads_fields_alone_mixed :
    letI := Platform.usual
    let session := Command.reached Config.standard [.createCase (.str (Text.ofString "a"))]
    let one : Record.Members :=
      [(Text.ofString "search_engine", .str (Text.ofString "es")), (Text.ofString "other", .int 1),
        (Text.ofString "numberOfRows", .int 5), (Text.ofString "curatorVars", .null)]
    let two : Record.Members :=
      [(Text.ofString "number_of_rows", .int 5), (Text.ofString "name", .null),
        (Text.ofString "searchEngine", .str (Text.ofString "es"))]
    let create (members : Record.Members) :=
      (Command.createTry 1 (.unread (.obj members))).run Config.standard session
    create one = create two ∧ (create one).1.isOk := by
  let _ := Platform.usual
  intro session one two create
  have fields : SameFields one two :=
    { one_once := by
        intro field apart
        cases field with
        | name => exact absurd rfl apart
        | _ => decide +kernel
      two_once := by
        intro field apart
        cases field with
        | name => exact absurd rfl apart
        | _ => decide +kernel
      same := by
        intro field
        cases field with
        | name => exact ⟨_, .absent (by decide) (by decide), .spelled .camel rfl⟩
        | searchEngine => exact ⟨_, .spelled .snake rfl, .spelled .camel rfl⟩
        | numberOfRows => exact ⟨_, .spelled .camel rfl, .spelled .snake rfl⟩
        | curatorVars => exact ⟨_, .spelled .camel rfl, .absent (by decide) (by decide)⟩
        | _ => exact ⟨_, .absent (by decide) (by decide), .absent (by decide) (by decide)⟩ }
  have made : (create one).1.isOk := by decide +kernel
  refine ⟨?_, made⟩
  rcases createTry_reads_fields_alone fields Config.standard session 1 with same | refused
  · exact same
  · obtain ⟨report, -, faults, others, -, failed, -⟩ := refused
    have ended : create one = (.error (.invalidFields report faults), session) := failed
    rw [ended] at made
    cases made

end Lifecycle

end SearchTuning

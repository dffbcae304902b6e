import SearchTuning.Fields.Record
import SearchTuning.Json.Display

/-!
# Submitted fields

The fields that a caller submits for a try.  Each has two spellings, and may be absent or `null`;
keys that are no field are passed over.
-/

namespace SearchTuning

/-- A field that can be submitted. -/
inductive TryField where
  | name | searchEngine | searchUrl | fieldSpec | queryParams | escapeQuery | numberOfRows | curatorVars
  deriving DecidableEq, Repr

namespace TryField

/-- All fields, in order. -/
def all : List TryField :=
  [.name, .searchEngine, .searchUrl, .fieldSpec, .queryParams, .escapeQuery, .numberOfRows,
    .curatorVars]

/-- The spelling with capitals. -/
def camel : TryField → Text
  | .name => Text.ofString "name"
  | .searchEngine => Text.ofString "searchEngine"
  | .searchUrl => Text.ofString "searchUrl"
  | .fieldSpec => Text.ofString "fieldSpec"
  | .queryParams => Text.ofString "queryParams"
  | .escapeQuery => Text.ofString "escapeQuery"
  | .numberOfRows => Text.ofString "numberOfRows"
  | .curatorVars => Text.ofString "curatorVars"

/-- The spelling with underscores. -/
def snake : TryField → Text
  | .name => Text.ofString "name"
  | .searchEngine => Text.ofString "search_engine"
  | .searchUrl => Text.ofString "search_url"
  | .fieldSpec => Text.ofString "field_spec"
  | .queryParams => Text.ofString "query_params"
  | .escapeQuery => Text.ofString "escape_query"
  | .numberOfRows => Text.ofString "number_of_rows"
  | .curatorVars => Text.ofString "curator_vars"

/-- The key and the value of a field.  Of two spellings the one with capitals is read. -/
def find? (field : TryField) (members : Record.Members) : Option (Text × Json) :=
  match Table.get? field.camel members with
  | some v => some (field.camel, v)
  | none => (Table.get? field.snake members).map fun v => (field.snake, v)

/-- A field as its kind takes it, absent if it is not there or `null`. -/
def read {α : Type} (field : TryField) (coerce : Json → Except Refusal α)
    (members : Record.Members) : Checked (Option α) :=
  match field.find? members with
  | none => .valid none
  | some (key, v) => Record.taken key (Coerce.optional coerce) v

end TryField

/-- The fields of a try that a caller submits. -/
structure TryFields where
  name : Option Text
  engine : Option Engine
  searchUrl : Option Text
  fieldSpec : Option Text
  queryParams : Option Text
  escapeQuery : Option Bool
  numberOfRows : Option Int
  /-- The variables, in the order given. -/
  curatorVars : Table Text Text
  deriving DecidableEq, Repr

namespace TryFields

/-- No field at all. -/
def empty : TryFields := ⟨none, none, none, none, none, none, none, []⟩

variable [Platform]

/-- Why a value cannot be shown. -/
def unshown : Error → Refusal
  | .outOfStack => .outOfStack
  | _ => .unwritable

/-- A variable with any value, as a text. -/
def variableOfJson : Text × Json → Except Refusal (Text × Text)
  | (name, v) => do pure (name, ← v.display.mapError unshown)

/-- The variables that a value gives: any values, as texts. -/
def variablesOfJson : Json → Except Refusal (Table Text Text)
  | .obj members => members.mapM variableOfJson
  | _ => .error .notTable

/-- The fields that members give. -/
def ofMembers (members : Record.Members) : Checked TryFields :=
  TryFields.mk <$> TryField.name.read Coerce.text members
    <*> TryField.searchEngine.read Coerce.engine members
    <*> TryField.searchUrl.read Coerce.text members
    <*> TryField.fieldSpec.read Coerce.text members
    <*> TryField.queryParams.read Coerce.text members
    <*> TryField.escapeQuery.read Coerce.bool members
    <*> TryField.numberOfRows.read Coerce.count members
    <*> (·.getD []) <$> TryField.curatorVars.read variablesOfJson members

/-- The fields that a value gives. -/
def ofJson (v : Json) : Checked TryFields := Record.ofJson ofMembers v

/-- The variables as they are shown: names that hold surrogates are repaired, and of names that come
to the same the last counts, at the place of the first. -/
def shownVariables (fields : TryFields) : Table Text Text :=
  Table.ofEntries (fields.curatorVars.map fun (name, value) => (Utf8.repair name, value))

/-- The fields that members have, whatever their values. -/
def given (members : Record.Members) : List TryField :=
  TryField.all.filter fun field => (field.find? members).isSome

end TryFields

/-- What a caller hands over as the fields of a try. -/
inductive Submission where
  /-- Nothing. -/
  | absent
  /-- Fields that have been checked before. -/
  | checked (fields : TryFields)
  /-- A value that is still to be read. -/
  | unread (v : Json)

namespace Submission

/-- The key and the value of an entry, which is a list of two, a text of two code points, or an
object of two keys.  A key that is no text is no field. -/
def pairOfJson (position : Nat) : Json → Except Error (Option (Text × Json))
  | .arr [.str key, v] => .ok (some (key, v))
  | .arr [.scalar _, _] => .ok none
  | .arr [_, _] => .error .notPairs
  | .arr items => .error (.notPair position items.length)
  | .str [a, b] => .ok (some ([a], .str [b]))
  | .str t => .error (.notPair position t.length)
  | .obj [(a, _), (b, _)] => .ok (some (a, .str b))
  | .obj members => .error (.notPair position members.length)
  | .scalar _ => .error .notPairs

/-- The members that a list of entries gives, of which the last for a key counts. -/
def membersOfEntries (position : Nat) (members : Record.Members) :
    List Json → Except Error Record.Members
  | [] => .ok members
  | entry :: entries => do
      match ← pairOfJson position entry with
      | some (key, v) => membersOfEntries (position + 1) (Table.insert key v members) entries
      | none => membersOfEntries (position + 1) members entries

/-- The members that a value gives: those of an object, or the entries of a list or a text. -/
def membersOfJson : Json → Except Error Record.Members
  | .obj members => .ok members
  | .arr entries => membersOfEntries 0 [] entries
  | .str t => membersOfEntries 0 [] (t.map fun c => .str [c])
  | .scalar _ => .error .notPairs

/-- The fields for a new try. -/
def forCreate [Platform] : Submission → Except Error TryFields
  | .absent | .unread .null => .ok TryFields.empty
  | .checked fields => .ok fields
  | .unread v => do
      let members ← membersOfJson v
      (TryFields.ofMembers members).toExcept.mapError
        (Error.ofFaults .invalidFields "TryFields" (.obj members))

/-- The new name of a try.  Nothing else of it can change, so nothing else is read. -/
def newName : Submission → Except Error (Option Text)
  | .absent | .unread .null => .ok none
  | .checked fields => .ok fields.name
  | .unread (.obj members) =>
      match Table.get? (Text.ofString "name") members with
      | none | some .null => .ok none
      | some (.str name) => .ok (some name)
      | some v => .error (.nameNotText v)
  | .unread _ => .error .notTable

end Submission

end SearchTuning

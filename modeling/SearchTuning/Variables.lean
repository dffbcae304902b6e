import SearchTuning.Fields.Record
import SearchTuning.Json.Display
import SearchTuning.Text.Order
import SearchTuning.Text.Word

/-!
# Curator variables

The values that a curator gives to the variables of one try's template.  They are kept in the order
of their names, and each change of them is counted.
-/

namespace SearchTuning

/-- Names and values, in the order of the names. -/
abbrev VariableMap := Table Text Text

/-- Writes a value: in its place if the name is there, before the first greater name if not. -/
def VariableMap.set (name value : Text) : VariableMap → VariableMap
  | [] => [(name, value)]
  | (k, v) :: rest =>
      if k = name then (k, value) :: rest
      else if name.le k then (name, value) :: (k, v) :: rest
      else (k, v) :: VariableMap.set name value rest

/-- The value of a variable that has one. -/
def VariableMap.lookup (map : VariableMap) (name : Text) : Option Text := Table.get? name map

namespace VariableName

/-- Whether a name is made of word characters.  One line break after them is passed over. -/
def isValid (name : Text) : Bool :=
  let word := if name.getLast? = some (CodePoint.ofChar '\n') then name.dropLast else name
  word ≠ [] && word.all CodePoint.isWord

/-- The name that a value is, if a variable can have it. -/
def check : Json → Except Error Text
  | .str name => if isValid name then .ok name else .error (.invalidVariableName (.str name))
  | v => .error (.invalidVariableName v)

end VariableName

/-- The variables of one try. -/
structure Variables where
  map : VariableMap
  /-- How many changes there have been. -/
  changes : Nat
  deriving DecidableEq, Repr

namespace Variables

/-- The variables with the given names and values, of which the last for a name counts. -/
def ofEntries (entries : List (Text × Text)) : Except Error Variables := do
  let map ← entries.foldlM
    (fun map (name, value) => do pure (VariableMap.set (← VariableName.check (.str name)) value map)) []
  pure ⟨map, 0⟩

variable [Platform]

/-- Gives a value to a variable.  The value is shown before the name is looked at. -/
def set (name value : Json) (vars : Variables) : Except Error Variables := do
  let value ← value.display
  let name ← VariableName.check name
  pure ⟨vars.map.set name value, vars.changes + 1⟩

/-- The variables with the given names and any values, of which the last for a name counts. -/
def ofMembers (members : List (Text × Json)) : Except Error Variables := do
  let vars ← members.foldlM (fun (vars : Variables) (name, value) => vars.set (.str name) value) ⟨[], 0⟩
  pure { vars with changes := 0 }

/-- The name and the value that members give. -/
def entryOfMembers (members : Record.Members) : Checked (Text × Text) :=
  Prod.mk <$> Record.required "name" Coerce.text members
    <*> Record.required "value" Coerce.text members

/-- The names and values of records, of which the first that is refused counts. -/
def entriesOfRecords (records : List (Json × Json)) : Except Error (List (Text × Text)) :=
  records.mapM fun (name, value) =>
    let members := [(Text.ofString "name", name), (Text.ofString "value", value)]
    (entryOfMembers members).toExcept.mapError
      (Error.ofFaults .invalidRecord "CuratorVariable" (.obj members))

/-- The variables that a value gives: the members of an object, with any values, or a list of
records. -/
def ofJson : Json → Except Error Variables
  | .obj members => ofMembers members
  | .arr records => do
      let entries ← entriesOfRecords (records.filterMap fun
        | .arr [name, value] => some (name, value)
        | _ => none)
      ofEntries entries
  | _ => .ok ⟨[], 0⟩

/-- Whether a variable has a value. -/
def has (name : Text) (vars : Variables) : Bool := Table.has name vars.map

/-- Takes the value from a variable, and tells whether it had one. -/
def remove (name : Text) (vars : Variables) : Bool × Variables :=
  if vars.has name then
    (true, ⟨Table.erase name vars.map, vars.changes + 1⟩)
  else (false, vars)

end Variables

end SearchTuning

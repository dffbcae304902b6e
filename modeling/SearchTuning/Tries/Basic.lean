import SearchTuning.Args
import SearchTuning.Fields.Record
import SearchTuning.Variables

/-!
# Cases, tries and their views

A case holds numbered tries.  A try is a query template for an engine, together with the args that
it comes to.  A view of a try shows it with its curator variables.
-/

namespace SearchTuning

/-- A case. -/
structure Case where
  id : Int
  name : Text
  /-- The last number that was given to a try. -/
  lastTry : Int
  deriving DecidableEq, Repr

/-- A try. -/
structure Try where
  caseId : Int
  tryNo : Int
  name : Text
  engine : Engine
  searchUrl : Text
  fieldSpec : Text
  queryParams : Text
  escapeQuery : Bool
  numberOfRows : Int
  /-- What the template comes to, `null` if it comes to nothing. -/
  args : Json
  deriving DecidableEq, Repr

namespace Try

/-- The try that members give. -/
def ofMembers (members : Record.Members) : Checked Try :=
  Try.mk <$> Record.required "case_id" Coerce.int members
    <*> Record.required "try_no" Coerce.int members
    <*> Record.required "name" Coerce.text members
    <*> Record.required "search_engine" Coerce.engine members
    <*> Record.required "search_url" Coerce.text members
    <*> Record.required "field_spec" Coerce.text members
    <*> Record.required "query_params" Coerce.text members
    <*> Record.defaulted "escape_query" true Coerce.bool members
    <*> Record.defaulted "number_of_rows" 10 Coerce.int members
    <*> Record.defaulted "args" .null Except.ok members

/-- The try that a value gives. -/
def ofJson (v : Json) : Checked Try := Record.ofJson ofMembers v

/-- The args of a try with the given variables, and with a phrase if there is one. -/
def compile [Platform] (t : Try) (vars : VariableMap) (phrase : Option Text) : Except Error Json :=
  Args.compile t.engine t.escapeQuery phrase vars.lookup t.queryParams

end Try

/-- A try as it is shown. -/
structure View where
  tryNo : Int
  name : Text
  queryParams : Text
  fieldSpec : Text
  searchUrl : Text
  escapeQuery : Bool
  numberOfRows : Int
  engine : Engine
  args : Json
  curatorVars : VariableMap
  deriving DecidableEq, Repr

/-- The view of a try with its variables. -/
def Try.view (t : Try) (vars : VariableMap) : View :=
  { tryNo := t.tryNo
    name := t.name
    queryParams := t.queryParams
    fieldSpec := t.fieldSpec
    searchUrl := t.searchUrl
    escapeQuery := t.escapeQuery
    numberOfRows := t.numberOfRows
    engine := t.engine
    args := t.args
    curatorVars := vars }

/-- The most levels of the args in a view that can be shown, a value without parts being one
level. -/
def shownLevels : Nat := 255

/-- A value as it is shown: numbers that are not finite are `null`. -/
def Json.exported (v : Json) : Except Error Json := do
  Json.Walk.viewing.check shownLevels v
  pure v.finiteOnly

/-- A view as a value. -/
def View.toJson (view : View) : Except Error Json := do
  let args ← view.args.exported
  pure (.obj
    [(Text.ofString "tryNo", .int view.tryNo),
      (Text.ofString "name", .str view.name),
      (Text.ofString "queryParams", .str view.queryParams),
      (Text.ofString "fieldSpec", .str view.fieldSpec),
      (Text.ofString "searchUrl", .str view.searchUrl),
      (Text.ofString "escapeQuery", .bool view.escapeQuery),
      (Text.ofString "numberOfRows", .int view.numberOfRows),
      (Text.ofString "searchEngine", .str view.engine.tag),
      (Text.ofString "args", args),
      (Text.ofString "curatorVars",
        .obj (view.curatorVars.map fun (name, value) => (name, .str value)))])

/-- A case as a value. -/
def Case.toJson (c : Case) : Json :=
  .obj
    [(Text.ofString "id", .int c.id), (Text.ofString "name", .str c.name),
      (Text.ofString "last_try", .int c.lastTry)]

end SearchTuning

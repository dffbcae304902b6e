import SearchTuning.Error
import SearchTuning.Fields.Record
import SearchTuning.Template.Basic

/-!
# Configuration

Which engine a try has if none is asked for, what its fields are for each engine if they are not
given, and how it is named.
-/

namespace SearchTuning

/-- The fields of a try for one engine, if they are not given. -/
structure EngineDefaults where
  searchUrl : Text
  fieldSpec : Text
  queryParams : Text
  escapeQuery : Bool
  numberOfRows : Int
  deriving DecidableEq, Repr

namespace EngineDefaults

/-- The defaults that hold if nothing is given: an engine on this machine, and all fields it
needs. -/
def standard : Engine → EngineDefaults
  | .solr =>
      { searchUrl := Text.ofString "http://localhost:8983/solr/select"
        fieldSpec := Text.ofString "id:id, title:title"
        queryParams := Text.ofString "q=" ++ Template.phraseMark
        escapeQuery := true
        numberOfRows := 10 }
  | .es =>
      { searchUrl := Text.ofString "http://localhost:9200/_search"
        fieldSpec := Text.ofString "id:_id, title:title"
        queryParams :=
          Text.ofString "\x7b\"query\": \"" ++ Template.phraseMark ++ Text.ofString "\"\x7d"
        escapeQuery := true
        numberOfRows := 10 }

/-- The defaults that members give. -/
def ofMembers (members : Record.Members) : Checked EngineDefaults :=
  EngineDefaults.mk <$> Record.required "search_url" Coerce.text members
    <*> Record.required "field_spec" Coerce.text members
    <*> Record.required "query_params" Coerce.text members
    <*> Record.defaulted "escape_query" true Coerce.bool members
    <*> Record.defaulted "number_of_rows" 10 Coerce.int members

end EngineDefaults

/-- The configuration. -/
structure Config where
  /-- The name of the engine of a try that asks for none. -/
  defaultEngine : Text
  /-- Defaults by the name of an engine. -/
  engines : Table Text EngineDefaults
  /-- What stands before the number in the name of a try that is given none. -/
  tryNamePrefix : Text
  deriving DecidableEq, Repr

namespace Config

/-- The configuration that holds if nothing is given. -/
def standard : Config :=
  { defaultEngine := Engine.solr.tag
    engines := Engine.all.map fun engine => (engine.tag, EngineDefaults.standard engine)
    tryNamePrefix := Text.ofString "Try" }

/-- The defaults by engine that a configuration gives. -/
def enginesOfMembers (members : Record.Members) : Checked (Table Text EngineDefaults) :=
  match Table.get? (Text.ofString "engines") members with
  | none => .valid standard.engines
  | some (.obj engines) =>
      (Checked.entries (Record.ofJson EngineDefaults.ofMembers) engines).under
        (Text.ofString "engines")
  | some _ => .refused [⟨[Text.ofString "engines"], .notTable⟩]

/-- The configuration that members give. -/
def ofMembers (members : Record.Members) : Checked Config :=
  Config.mk <$> Record.defaulted "default_search_engine" standard.defaultEngine Coerce.text members
    <*> enginesOfMembers members
    <*> Record.defaulted "try_name_prefix" standard.tryNamePrefix Coerce.text members

/-- The configuration that a value gives. -/
def ofJson (v : Json) : Checked Config := Record.ofJson ofMembers v

/-- The defaults for an engine, by its name. -/
def defaultsFor (config : Config) (tag : Text) : Except Error EngineDefaults :=
  match Table.get? tag config.engines with
  | some defaults => .ok defaults
  | none => .error (.noDefaults tag)

/-- The engine of a try that asks for none. -/
def engineByDefault (config : Config) : Except Error Engine :=
  match Engine.ofTag? config.defaultEngine with
  | some engine => .ok engine
  | none => .error (.unknownDefaultEngine config.defaultEngine)

end Config

end SearchTuning

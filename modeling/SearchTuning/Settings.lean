import SearchTuning.Config
import SearchTuning.Text.Integer
import SearchTuning.Text.Quoted

/-!
# Settings

The configuration is taken from the variables of the environment.  A file of settings adds variables
that the environment does not have.
-/

namespace SearchTuning.Settings

/-- Variables by name. -/
abbrev Environment := Table Text Text

/-- The value of a variable. -/
def get? (name : String) (env : Environment) : Option Text := Table.get? (Text.ofString name) env

/-- The value of a variable, or another if there is none. -/
def getD (name : String) (default : Text) (env : Environment) : Text := (get? name env).getD default

/-! ## Files of settings -/

/-- The value without a comment, which begins with a number sign after a blank. -/
def withoutComment : Text → Text
  | [] => []
  | c :: rest =>
      if c.isBlank ∧ (rest.dropWhile CodePoint.isBlank).head? = some (CodePoint.ofChar '#') then []
      else c :: withoutComment rest

/-- The value that stands after an equals sign, without the quotes around it. -/
def valueOfText (t : Text) : Text :=
  let t := t.trim
  match t with
  | [] => []
  | c :: rest =>
      if c = '"' ∨ c = Text.apostrophe then
        match Text.cut? c rest with
        | some (inside, _) => inside
        | none => t
      else (withoutComment t).trim

/-- The variable that a line gives.  Empty lines and comments give none. -/
def entryOfLine (line : Text) : Option (Text × Text) :=
  let line := line.trim
  let line := if (Text.ofString "export ").isPrefixOf line then Text.trim (line.drop 7) else line
  if line.head? = some (CodePoint.ofChar '#') then none
  else
    match line.cut? '=' with
    | none => none
    | some (name, value) => if name.trim = [] then none else some (name.trim, valueOfText value)

/-- The variables that a file gives, of which the last for a name counts. -/
def ofFile (content : Text) : Environment :=
  Table.ofEntries ((content.splitOn '\n').filterMap entryOfLine)

/-- The environment with the variables of a file that it does not have. -/
def addFile (content : Text) (env : Environment) : Environment :=
  env ++ (ofFile content).filter fun entry => !Table.has entry.1 env

/-! ## The configuration -/

/-- The words for true. -/
def trueWords : List Text := ["1", "true", "yes", "on"].map Text.ofString

/-- The truth value of a variable.  What is no word for true is false. -/
def bool (name : String) (default : Bool) (env : Environment) : Bool :=
  match get? name env with
  | none => default
  | some t => trueWords.contains t.trim.lowerAscii

/-- The whole number that a variable gives. -/
def int (name : String) (default : Int) (env : Environment) : Except Error Int :=
  match get? name env with
  | none => .ok default
  | some t =>
      match Numeral.readInt? t with
      | some n => .ok n
      | none => .error (.notNumeral t)

/-- What stands before the names of the variables for one engine. -/
def engineMark : Engine → String
  | .solr => "SOLR"
  | .es => "ES"

/-- The defaults for an engine. -/
def engineDefaults (env : Environment) (numberOfRows : Int) (engine : Engine) : EngineDefaults :=
  let base := EngineDefaults.standard engine
  { searchUrl := getD (engineMark engine ++ "_SEARCH_URL") base.searchUrl env
    fieldSpec := getD (engineMark engine ++ "_FIELD_SPEC") base.fieldSpec env
    queryParams := getD (engineMark engine ++ "_QUERY_PARAMS") base.queryParams env
    escapeQuery := bool "DEFAULT_ESCAPE_QUERY" true env
    numberOfRows }

/-- The configuration that an environment gives. -/
def load (env : Environment) : Except Error Config := do
  let rows ← int "DEFAULT_NUMBER_OF_ROWS" 10 env
  pure
    { defaultEngine := getD "DEFAULT_SEARCH_ENGINE" Config.standard.defaultEngine env
      engines := Engine.all.map fun engine => (engine.tag, engineDefaults env rows engine)
      tryNamePrefix := getD "TRY_NAME_PREFIX" Config.standard.tryNamePrefix env }

end SearchTuning.Settings

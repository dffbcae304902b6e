import SearchTuning.Config
import SearchTuning.Program
import SearchTuning.Request
import SearchTuning.Tries.Submitted

/-!
# The life of a try

Tries are created in a case with the next number, shown, renamed, deleted, and tuned by their
variables.  The fields that make up a try's query are fixed once it is created.  Its args are
compiled anew whenever its variables change.
-/

namespace SearchTuning.Lifecycle

open Program

/-- The case with a number, which must exist. -/
def requireCase (caseId : Int) : Program Case := do
  match ← ask (.getCase caseId) with
  | some found => pure found
  | none => fail (.caseNotFound caseId)

/-- The try with a number, which must exist in its case. -/
def requireTry (caseId tryNo : Int) : Program Try := do
  let _ ← requireCase caseId
  match ← ask (.getTry caseId tryNo) with
  | some found => pure found
  | none => fail (.tryNotFound caseId tryNo)

/-- The next number for a try of a case. -/
def nextTryNo (caseId : Int) : Program Int := do
  match ← ask (.incrementLastTry caseId) with
  | some tryNo => pure tryNo
  | none => fail (.caseNotFound caseId)

/-- Saves a try. -/
def save (t : Try) : Program Unit := do
  ofExcept (← ask (.saveTry t))

/-- The views of tries, each with its variables. -/
def viewAll (caseId : Int) : List Try → Program (List View)
  | [] => pure []
  | t :: rest => do
      let vars ← ask (.getVariables caseId t.tryNo)
      let views ← viewAll caseId rest
      pure (t.view vars :: views)

/-- The views of a case's tries, in the order of their numbers. -/
def listTries (caseId : Int) : Program (List View) := do
  let _ ← requireCase caseId
  viewAll caseId (← ask (.listTries caseId))

/-- The view of a try. -/
def getTry (caseId tryNo : Int) : Program View := do
  let t ← requireTry caseId tryNo
  pure (t.view (← ask (.getVariables caseId tryNo)))

/-- The name of a new try: the one that is given, or one that is made from its number. -/
def newName (tryNamePrefix given : Text) (tryNo : Int) : Except Error Text :=
  if given = [] then
    if Numeral.fits tryNo then .ok (tryNamePrefix ++ Text.ofString " " ++ Numeral.ofInt tryNo)
    else .error .tooManyDigits
  else .ok given

/-- A try with a name and the submitted fields, with the defaults of its engine for those that are
absent. -/
def newTry (defaults : EngineDefaults) (engine : Engine) (fields : TryFields) (caseId tryNo : Int)
    (name : Text) : Try :=
  { caseId
    tryNo
    name
    engine
    searchUrl := fields.searchUrl.getD defaults.searchUrl
    fieldSpec := fields.fieldSpec.getD defaults.fieldSpec
    queryParams := fields.queryParams.getD defaults.queryParams
    escapeQuery := fields.escapeQuery.getD defaults.escapeQuery
    numberOfRows := fields.numberOfRows.getD defaults.numberOfRows
    args := .null }

/-- The engine that is asked for, or the default one. -/
def chosenEngine (config : Config) (fields : TryFields) : Except Error Engine :=
  match fields.engine with
  | some engine => .ok engine
  | none => config.engineByDefault

variable [Platform]

/-- Makes a case. -/
def createCase (name : Json) : Program Case := do
  match name with
  | .str name => ask (.createCase name)
  | _ =>
      fail (Error.ofFaults .invalidRecord "Case" (.obj [(Text.ofString "name", name)])
        [⟨[Text.ofString "name"], .notText⟩])

/-- Creates a try.  What is submitted is refused before a number is taken.  After that a number that
is to be part of the name can be too long, a template nested too deeply, and a try too deep to be
saved, and then the variables have been written. -/
def createTry (config : Config) (caseId : Int) (submission : Submission) : Program View := do
  let fields ← ofExcept submission.forCreate
  let _ ← requireCase caseId
  let engine ← ofExcept (chosenEngine config fields)
  let defaults ← ofExcept (config.defaultsFor engine.tag)
  let vars ← ofExcept (Variables.ofEntries fields.curatorVars)
  let tryNo ← nextTryNo caseId
  let name ← ofExcept (newName config.tryNamePrefix (fields.name.getD []) tryNo)
  let t := newTry defaults engine fields caseId tryNo name
  let args ← ofExcept (t.compile vars.map none)
  let t := { t with args }
  ask (.replaceVariables caseId tryNo vars.map)
  save t
  tell ⟨caseId, tryNo, engine⟩
  pure (t.view vars.map)

/-- Gives a try a new name, if there is one and it is another. -/
def nameTry (caseId tryNo : Int) (name : Option Text) : Program View := do
  let t ← requireTry caseId tryNo
  let renamed := { t with name := name.getD t.name }
  if renamed.name ≠ t.name then save renamed
  pure (renamed.view (← ask (.getVariables caseId tryNo)))

/-- Changes a try.  Only its name can change; all other fields are passed over. -/
def updateTry (caseId tryNo : Int) (submission : Submission) : Program View := do
  nameTry caseId tryNo (← ofExcept submission.newName)

/-- Renames a try, unless the name is `null`. -/
def renameTry (caseId tryNo : Int) (name : Json) : Program View := do
  let members := [(Text.ofString "name", name)]
  let fields ← ofExcept
    ((TryFields.ofMembers members).toExcept.mapError
      (Error.ofFaults .invalidRecord "TryFields" (.obj members)))
  updateTry caseId tryNo (.checked fields)

/-- Deletes a try with its variables. -/
def deleteTry (caseId tryNo : Int) : Program Unit := do
  let _ ← requireCase caseId
  unless ← ask (.deleteTry caseId tryNo) do fail (.tryNotFound caseId tryNo)

/-- Changes the variables of a try, and compiles its args anew if there was a change.  The variables
are written before the try is saved. -/
def changeVariables (caseId tryNo : Int) (change : Variables → Except Error Variables) :
    Program View := do
  let t ← requireTry caseId tryNo
  let current ← ask (.getVariables caseId tryNo)
  let vars ← ofExcept (Variables.ofEntries current >>= change)
  if vars.changes = 0 then pure (t.view vars.map)
  else do
    let args ← ofExcept (t.compile vars.map none)
    let t := { t with args }
    ask (.replaceVariables caseId tryNo vars.map)
    save t
    pure (t.view vars.map)

/-- Gives a value to a variable of a try. -/
def setVariable (caseId tryNo : Int) (name value : Json) : Program View :=
  changeVariables caseId tryNo fun vars => vars.set name value

/-- Takes the value from a variable of a try. -/
def removeVariable (caseId tryNo : Int) (name : Text) : Program View :=
  changeVariables caseId tryNo fun vars => .ok (vars.remove name).2

/-- A try and its args with a phrase. -/
def compileLive (caseId tryNo : Int) (phrase : Option Text) : Program (Try × Json) := do
  let t ← requireTry caseId tryNo
  let vars ← ask (.getVariables caseId tryNo)
  pure (t, ← ofExcept (t.compile vars phrase))

/-- The args of a try with a phrase. -/
def previewArgs (caseId tryNo : Int) (phrase : Option Text) : Program Json := do
  pure (← compileLive caseId tryNo phrase).2

/-- The args of a try with a phrase, and the request that they describe. -/
def preview (caseId tryNo : Int) (phrase : Option Text) : Program (Json × Option Request) := do
  let (t, args) ← compileLive caseId tryNo phrase
  pure (args, ← ofExcept (Request.build t args))

/-- The request of a try with a phrase. -/
def buildRequest (caseId tryNo : Int) (phrase : Option Text) : Program (Option Request) := do
  pure (← preview caseId tryNo phrase).2

end SearchTuning.Lifecycle

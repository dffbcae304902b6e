import SearchTuning.Lifecycle

/-!
# Commands

The operations of the life of tries as data, so that a history is a list of commands, each with its
result.
-/

namespace SearchTuning

/-- An operation. -/
inductive Command where
  | createCase (name : Json)
  | getCase (caseId : Int)
  | countVariables
  | listTries (caseId : Int)
  | getTry (caseId tryNo : Int)
  | createTry (caseId : Int) (submission : Submission)
  | updateTry (caseId tryNo : Int) (submission : Submission)
  | renameTry (caseId tryNo : Int) (name : Json)
  | deleteTry (caseId tryNo : Int)
  | setVariable (caseId tryNo : Int) (name value : Json)
  | removeVariable (caseId tryNo : Int) (name : Text)
  | previewArgs (caseId tryNo : Int) (phrase : Option Text)
  | preview (caseId tryNo : Int) (phrase : Option Text)
  | buildRequest (caseId tryNo : Int) (phrase : Option Text)

/-- The result of an operation that does not fail. -/
inductive Reply where
  | made (c : Case)
  | found (c : Option Case)
  | count (n : Nat)
  | views (views : List View)
  | view (view : View)
  | deleted
  | args (args : Json)
  | preview (args : Json) (request : Option Request)
  | request (request : Option Request)
  deriving DecidableEq

namespace Command

variable [Platform]

/-- The program of an operation. -/
def program (config : Config) : Command → Program Reply
  | .createCase name => .made <$> Lifecycle.createCase name
  | .getCase caseId => .found <$> Program.ask (.getCase caseId)
  | .countVariables => .count <$> Program.ask .countVariables
  | .listTries caseId => .views <$> Lifecycle.listTries caseId
  | .getTry caseId tryNo => .view <$> Lifecycle.getTry caseId tryNo
  | .createTry caseId submission => .view <$> Lifecycle.createTry config caseId submission
  | .updateTry caseId tryNo submission => .view <$> Lifecycle.updateTry caseId tryNo submission
  | .renameTry caseId tryNo name => .view <$> Lifecycle.renameTry caseId tryNo name
  | .deleteTry caseId tryNo => (fun _ => .deleted) <$> Lifecycle.deleteTry caseId tryNo
  | .setVariable caseId tryNo name value =>
      .view <$> Lifecycle.setVariable caseId tryNo name value
  | .removeVariable caseId tryNo name => .view <$> Lifecycle.removeVariable caseId tryNo name
  | .previewArgs caseId tryNo phrase => .args <$> Lifecycle.previewArgs caseId tryNo phrase
  | .preview caseId tryNo phrase =>
      (fun (args, request) => .preview args request) <$> Lifecycle.preview caseId tryNo phrase
  | .buildRequest caseId tryNo phrase => .request <$> Lifecycle.buildRequest caseId tryNo phrase

/-- Runs an operation. -/
def run (config : Config) (command : Command) (session : Session) : Except Error Reply × Session :=
  (command.program config).run session

/-- Runs operations one after the other.  One that fails does not stop those after it. -/
def runAll (config : Config) : List Command → Session → List (Except Error Reply) × Session
  | [], session => ([], session)
  | command :: commands, session =>
      let (result, session) := command.run config session
      let (results, session) := runAll config commands session
      (result :: results, session)

end Command

end SearchTuning

import SearchTuning.Command
import SearchTuning.Error.Message
import SearchTuning.Settings

/-!
# Tools

The operations as tools that answer with JSON text.  Errors of the domain are answers too; all other
errors are not, and neither is a result that cannot be printed.  The tools share one session, which
is begun, with the configuration that the environment gives, when it is first needed.
-/

namespace SearchTuning

/-- A call of a tool. -/
inductive Tool where
  | createCase (name : Json)
  | listTries (caseId : Int)
  | getTry (caseId tryNo : Int)
  | createTry (caseId : Int) (submission : Submission)
  | renameTry (caseId tryNo : Int) (name : Json)
  | deleteTry (caseId tryNo : Int)
  | setCuratorVariable (caseId tryNo : Int) (name value : Json)
  | previewArgs (caseId tryNo : Int) (phrase : Option Text)

namespace Tool

/-- What a tool answers. -/
inductive Answer where
  | document (v : Json)
  /-- An error of the domain. -/
  | refusal (message : Text) (kind : Error.Kind)
  deriving DecidableEq

/-- The word for a kind of errors. -/
def kindText : Error.Kind → Text
  | .notFound => Text.ofString "not_found"
  | .invalid => Text.ofString "invalid"

/-- An answer as text. -/
def Answer.text : Answer → Text
  | .document v => Json.render .indented v
  | .refusal message kind =>
      Json.render .spaced
        (.obj [(Text.ofString "error", .str message), (Text.ofString "kind", .str (kindText kind))])

/-- The operation that a tool stands for. -/
def command : Tool → Command
  | .createCase name => .createCase name
  | .listTries caseId => .listTries caseId
  | .getTry caseId tryNo => .getTry caseId tryNo
  | .createTry caseId submission => .createTry caseId submission
  | .renameTry caseId tryNo name => .renameTry caseId tryNo name
  | .deleteTry caseId tryNo => .deleteTry caseId tryNo
  | .setCuratorVariable caseId tryNo name value => .setVariable caseId tryNo name value
  | .previewArgs caseId tryNo phrase => .preview caseId tryNo phrase

/-- The document for args and the request that they describe. -/
def previewDocument (args : Json) (request : Option Request) : Json :=
  .obj
    ((Text.ofString "args", args) ::
      match request with
      | none => []
      | some request =>
          [(Text.ofString "request",
            .obj
              [(Text.ofString "method", .str request.method.name),
                (Text.ofString "url", .str request.url.toText)])])

/-- The document for a result. -/
def document (tool : Tool) : Reply → Except Error Json
  | .made c => .ok c.toJson
  | .view view => view.toJson
  | .views views => do
      pure (.obj [(Text.ofString "tries", .arr (← views.mapM View.toJson))])
  | .preview args request => .ok (previewDocument args request)
  | _ =>
      match tool with
      | .deleteTry caseId tryNo =>
          .ok (.obj
            [(Text.ofString "deleted", .bool true), (Text.ofString "case_id", .int caseId),
              (Text.ofString "try_no", .int tryNo)])
      | _ => .ok .null

variable [Platform]

/-- The answer for a result, if its document can be printed, or for an error that is raised.  Making
a case has no errors of the domain. -/
def answer (tool : Tool) : Except Error Reply → Except Error Answer
  | .ok reply => do
      let v ← tool.document reply
      let _ ← v.print
      pure (.document v)
  | .error e =>
      match e.raised.kind? with
      | some kind => .ok (.refusal e.raised.message kind)
      | none => .error e.raised

/-- Calls a tool in a session that has begun. -/
def call (config : Config) (tool : Tool) (session : Session) : Except Error Answer × Session :=
  let (result, session) := tool.command.run config session
  (tool.answer result, session)

end Tool

/-- The session of the tools, with its configuration, if it has begun. -/
abbrev Toolbox := Option (Config × Session)

namespace Toolbox

/-- Calls a tool, and begins the session if this is the first call. -/
def call [Platform] (env : Settings.Environment) (tool : Tool) (box : Toolbox) :
    Except Error Tool.Answer × Toolbox :=
  match box with
  | some (config, session) =>
      let (answer, session) := tool.call config session
      (answer, some (config, session))
  | none =>
      match Settings.load env with
      | .error e => (.error e, none)
      | .ok config =>
          let (answer, session) := tool.call config Session.start
          (answer, some (config, session))

end Toolbox

end SearchTuning

import SearchTuning.Proofs.Json.Rendering
import SearchTuning.Proofs.Tools.Refusals

/-!
# Tools and the operations they stand for

A call of a tool leaves the session that its operation leaves, and answers with a text that is read
back as what the operation comes to: the document of its result, or its refusal.  A result that
shows an object key with a surrogate is not answered, for such a key has no form in octets, and
neither is an error that cannot be told.
-/

namespace SearchTuning

open Lifecycle

section

variable [Platform]

/-! ## Answers as text -/

namespace Tool

/-- The document that tells of an error. -/
def refusalDocument (message : Text) (kind : Error.Kind) : Json :=
  .obj [(Text.ofString "error", .str message), (Text.ofString "kind", .str (kindText kind))]

omit [Platform] in
theorem readable_refusalDocument (message : Text) (kind : Error.Kind) :
    (refusalDocument message kind).Readable 1 := by
  refine .obj ?_
  simp only [List.forall_mem_cons, List.not_mem_nil, false_imp_iff, implies_true, and_true]
  exact ⟨.str _, .str _⟩

omit [Platform] in
theorem settled_refusalDocument (message : Text) (kind : Error.Kind) :
    (refusalDocument message kind).Settled := by
  refine .obj ?_ ?_
  · change List.Nodup [Text.ofString "error", Text.ofString "kind"]
    decide
  · simp only [List.forall_mem_cons, List.not_mem_nil, false_imp_iff, implies_true, and_true]
    exact ⟨.str _, .str _⟩

/-- A refusal is read back with its message, in which surrogates that are a pair have come
together. -/
theorem Answer.read_text_refusal (roomy : Platform.Roomy) (message : Text) (kind : Error.Kind) :
    Json.read (Answer.refusal message kind).text =
      .ok (refusalDocument (Literal.joined message) kind) := by
  change (Json.readRaw (Json.render .spaced (refusalDocument message kind))).map Json.ofRaw = _
  have readable := (readable_refusalDocument message kind).mono
    (Nat.le_trans (by decide : 1 ≤ shownLevels + 3) roomy.reading)
  rw [Json.readRaw_render Json.loose_spaced readable]
  refine congrArg Except.ok ?_
  have kindWhole : (kindText kind).hasSurrogate = false := by cases kind <;> decide
  have mapped : (refusalDocument message kind).map (Literal.decode ∘ Literal.places true) =
      refusalDocument (Literal.joined message) kind := by
    simp only [refusalDocument, Node.map, Node.mapMembers, Function.comp_apply,
      Literal.decode_places_ascii]
    rw [Literal.joined_of_whole (by decide : (Text.ofString "error").hasSurrogate = false),
      Literal.joined_of_whole (by decide : (Text.ofString "kind").hasSurrogate = false),
      Literal.joined_of_whole kindWhole]
  change Json.ofRaw ((refusalDocument message kind).map (Literal.places true)) = _
  rw [Json.ofRaw, Node.map_map, mapped, (settled_refusalDocument _ kind).collapse_eq]

end Tool

/-! ## Results as documents -/

namespace Reply

/-- The views that a result shows. -/
def shown : Reply → List View
  | .view v => [v]
  | .views vs => vs
  | _ => []

/-- Whether a result shows an object key with a surrogate. -/
def hasBrokenKey (reply : Reply) : Bool := reply.shown.any View.hasBrokenKey

end Reply

namespace Tool

/-- The document of a result nests few enough levels, has few enough digits in its numbers and no
key twice, unless the result shows a key that has no form in octets. -/
structure Documented (tool : Tool) (reply : Reply) : Prop where
  whole : reply.hasBrokenKey = false → ∃ document,
    tool.document reply = .ok document ∧ document.Readable (shownLevels + 3) ∧ document.Settled
  broken : reply.hasBrokenKey = true → tool.document reply = .error .unencodable

namespace Documented

variable {tool : Tool} {reply : Reply} (documented : tool.Documented reply)

include documented

/-- The document is printed, and read back from its text. -/
theorem answer_of_whole (roomy : Platform.Roomy) (whole : reply.hasBrokenKey = false) :
    ∃ document, tool.document reply = .ok document ∧
      tool.answer (.ok reply) = .ok (.document document) ∧
      Json.read (Answer.document document).text = .ok document := by
  obtain ⟨document, made, readable, settled⟩ := documented.whole whole
  refine ⟨document, made, ?_, ?_⟩
  · have printed : document.print = .ok (Json.render .indented document) := by
      rw [Json.print, Json.Walk.check_printing readable roomy.printing]
      rfl
    change (tool.document reply >>= _) = _
    rw [made]
    change (document.print >>= _) = _
    rw [printed]
    rfl
  · exact Json.read_render Json.plain_indented (readable.mono roomy.reading) settled

theorem answer_of_broken (broken : reply.hasBrokenKey = true) :
    tool.answer (.ok reply) = .error .unencodable := by
  change (tool.document reply >>= _) = _
  rw [documented.broken broken]
  rfl

end Documented

theorem answer_of_kind (tool : Tool) {e : Error} {kind : Error.Kind}
    (known : e.raised.kind? = some kind) :
    tool.answer (.error e) = .ok (.refusal e.raised.message kind) := by
  rw [answer, known]

theorem answer_of_kindless (tool : Tool) {e : Error} (unknown : e.raised.kind? = none) :
    tool.answer (.error e) = .error e.raised := by
  rw [answer, unknown]

omit [Platform] in
theorem documented_view (tool : Tool) {view : View} (showable : view.Showable) :
    tool.Documented (.view view) := by
  have key : (Reply.view view).hasBrokenKey = view.hasBrokenKey := by
    rw [Reply.hasBrokenKey, Reply.shown, List.any_cons, List.any_nil, Bool.or_false]
  have document := showable.toJson_eq
  constructor
  · intro whole
    rw [key] at whole
    rw [whole, if_neg Bool.false_ne_true] at document
    exact ⟨view.shown, document, showable.readable_shown.mono (by decide), showable.settled_shown⟩
  · intro broken
    rw [key] at broken
    rw [broken, if_pos rfl] at document
    exact document

omit [Platform] in
theorem documented_views (tool : Tool) {views : List View}
    (showable : ∀ view ∈ views, view.Showable) : tool.Documented (.views views) := by
  have key : (Reply.views views).hasBrokenKey = views.any View.hasBrokenKey := rfl
  have documents := View.mapM_toJson showable
  constructor
  · intro whole
    rw [key] at whole
    rw [whole, if_neg Bool.false_ne_true] at documents
    have items : (Node.arr (views.map View.shown)).Readable (shownLevels + 2) := by
      refine .arr fun item member => ?_
      obtain ⟨view, there, rfl⟩ := List.mem_map.mp member
      exact (showable view there).readable_shown
    have settled : Json.Settled (.arr (views.map View.shown)) := by
      refine .arr fun item member => ?_
      obtain ⟨view, there, rfl⟩ := List.mem_map.mp member
      exact (showable view there).settled_shown
    refine ⟨.obj [(Text.ofString "tries", .arr (views.map View.shown))], ?_, ?_, ?_⟩
    · rw [document, documents]
      rfl
    · exact .obj (List.forall_mem_singleton.mpr items)
    · exact .obj (List.nodup_singleton _) (List.forall_mem_singleton.mpr settled)
  · intro broken
    rw [key] at broken
    rw [broken, if_pos rfl] at documents
    rw [document, documents]
    rfl

omit [Platform] in
theorem documented_deleted {caseId tryNo : Int} (first : (Scalar.int caseId).Readable)
    (second : (Scalar.int tryNo).Readable) : (Tool.deleteTry caseId tryNo).Documented .deleted := by
  constructor
  · intro _
    refine ⟨_, rfl, ?_, ?_⟩
    · refine .obj ?_
      simp only [List.forall_mem_cons, List.not_mem_nil, false_imp_iff, implies_true, and_true]
      exact ⟨.scalar trivial, .scalar first, .scalar second⟩
    · refine .obj ?_ ?_
      · change List.Nodup (["deleted", "case_id", "try_no"].map Text.ofString)
        decide
      · simp only [List.forall_mem_cons, List.not_mem_nil, false_imp_iff, implies_true, and_true]
        exact ⟨.scalar _, .scalar _, .scalar _⟩
  · intro broken
    cases broken

theorem exists_view_of_map {p : Program View} {session : Session} {reply : Reply}
    (ended : ((Reply.view <$> p).run session).1 = .ok reply) : ∃ view, reply = .view view := by
  rw [Program.run_map] at ended
  obtain ⟨view, -, same⟩ := exists_of_map_eq_ok ended
  exact ⟨view, same.symm⟩

/-- What an operation returns can be written, if the stores before and after it can be shown. -/
theorem documented_run (roomy : Platform.Roomy) {config : Config} {session : Session} {tool : Tool}
    (answers : tool.Answers) (before : session.store.Presentable)
    (after : (tool.command.run config session).2.store.Presentable) {reply : Reply}
    (ended : (tool.command.run config session).1 = .ok reply) : tool.Documented reply := by
  have stored : ∀ {view : View} {caseId tryNo : Int}, reply = .view view →
      tool.command.subject? view = some (caseId, tryNo) → tool.Documented reply := by
    rintro view caseId tryNo rfl subject
    exact documented_view tool
      (after.showable_of_viewOf roomy (Command.viewOf_run before.kept ended subject))
  cases tool with
  | createCase name => exact answers.elim
  | previewArgs caseId tryNo phrase => exact answers.elim
  | listTries caseId =>
    rw [command, Command.run, Command.program, Program.run_map, run_listTries] at ended
    obtain ⟨views, shown, rfl⟩ := exists_of_map_eq_ok ended
    obtain ⟨owner, -, rfl⟩ := exists_of_map_eq_ok shown
    refine documented_views _ fun view member => ?_
    obtain ⟨t, listed, rfl⟩ := List.mem_map.mp member
    exact before.showable roomy (before.kept.keyed.mem_triesOf.mp listed)
  | getTry caseId tryNo =>
    rw [command, Command.run, Command.program, Program.run_map, run_getTry] at ended
    obtain ⟨view, shown, rfl⟩ := exists_of_map_eq_ok ended
    obtain ⟨t, held, rfl⟩ := exists_of_map_eq_ok shown
    exact documented_view _ (before.showable roomy (findTry_of_heldTry held))
  | createTry caseId submission =>
    obtain ⟨view, rfl⟩ := exists_view_of_map ended
    exact stored rfl rfl
  | renameTry caseId tryNo name =>
    obtain ⟨view, rfl⟩ := exists_view_of_map ended
    exact stored rfl rfl
  | deleteTry caseId tryNo =>
    rw [command, Command.run, Command.program, Program.run_map, result_deleteTry] at ended
    obtain ⟨_, deleted, rfl⟩ := exists_of_map_eq_ok ended
    obtain ⟨t, held, -⟩ := exists_of_map_eq_ok deleted
    obtain ⟨first, second⟩ := before.readable_numbers (findTry_of_heldTry held)
    exact documented_deleted first second
  | setCuratorVariable caseId tryNo name value =>
    obtain ⟨view, rfl⟩ := exists_view_of_map ended
    exact stored rfl rfl

/-! ## Histories -/

theorem allowed_append {config : Config} {calls later : List Tool} {session : Session}
    (allowed : Allowed config (calls ++ later) session) :
    Allowed config calls session ∧
      Allowed config later (Command.runAll config (calls.map command) session).2 := by
  induction calls generalizing session with
  | nil => exact ⟨trivial, allowed⟩
  | cons tool calls ih =>
    obtain ⟨typed, shallow, rest⟩ := allowed
    exact ⟨⟨typed, shallow, (ih rest).1⟩, (ih rest).2⟩

/-- A try that is sure to be made is allowed if its own template is. -/
theorem shallow_of_draft {config : Config} {session : Session} {caseId : Int}
    {submission : Submission} (draft : Draft config session.store caseId submission)
    (levels : Json.nesting draft.text ≤ 200) :
    (Tool.createTry caseId submission).Shallow config session := by
  rintro text ⟨other, es⟩
  rw [other.unique draft]
  exact levels

/-- A variable of a try that is there may be given a value if its template with that value is
allowed. -/
theorem shallow_of_findTry {config : Config} {session : Session} {caseId tryNo : Int} {t : Try}
    (found : session.store.findTry caseId tryNo = some t) {name value : Json} {changed : Variables}
    (given : Variables.set name value ⟨session.store.variablesOf caseId tryNo, 0⟩ = .ok changed)
    (levels : Json.nesting (Template.fill changed.map.lookup t.queryParams) ≤ 200) :
    (Tool.setCuratorVariable caseId tryNo name value).Shallow config session := by
  rintro text (_ | ⟨there, es, other⟩)
  cases there.symm.trans found
  cases other.symm.trans given
  exact levels

end Tool

namespace Toolbox

/-- The tools after calls, one after the other. -/
def after (env : Settings.Environment) (calls : List Tool) (box : Toolbox) : Toolbox :=
  calls.foldl (fun box tool => (call env tool box).2) box

/-- The tools share the session in which their operations are run. -/
theorem after_eq (env : Settings.Environment) (config : Config) (calls : List Tool)
    (session : Session) :
    after env calls (some (config, session)) =
      some (config, (Command.runAll config (calls.map Tool.command) session).2) := by
  induction calls generalizing session with
  | nil => rfl
  | cons tool calls ih => exact ih _

/-- On a platform with room for it, after all calls that are allowed, a further one leaves the
session that its operation leaves.  What the operation returns is answered with a text that is read
back as its document, unless it shows an object key with a surrogate: then the answer fails, after
the operation.  An operation that fails has changed nothing.  If it raises an error of the domain,
that is answered with a text that is read back as the refusal, but for surrogates that are a pair
and have come together in its message.  It raises no other error, unless what is not there cannot be
told for its number has too many digits, or a variable of a new try has too many levels to be shown:
then the call fails with it.  It is refused as not found only if what it addresses is not there,
and, unless it makes a try, always then. -/
theorem call_simulates (roomy : Platform.Roomy) (env : Settings.Environment) (config : Config)
    (loaded : Settings.load env = .ok config) (calls : List Tool) (tool : Tool)
    (answers : tool.Answers) (allowed : Tool.Allowed config (calls ++ [tool]) Session.start)
    (few : calls.length + 1 < 10 ^ Numeral.digitLimit) :
    let session := Command.reached config (calls.map Tool.command)
    let ended := tool.command.run config session
    let box := after env calls (some (config, Session.start))
    let answered := call env tool box
    box = some (config, session) ∧ answered.2 = some (config, ended.2) ∧
    (∀ reply, ended.1 = .ok reply →
      (reply.hasBrokenKey = false → ∃ document,
        tool.document reply = .ok document ∧ answered.1 = .ok (.document document) ∧
        Json.read (Tool.Answer.document document).text = .ok document) ∧
      (reply.hasBrokenKey = true → answered.1 = .error .unencodable)) ∧
    (∀ e, ended.1 = .error e → ended.2 = session ∧
      (∀ kind, e.raised.kind? = some kind → answered.1 = .ok (.refusal e.raised.message kind) ∧
        Json.read (Tool.Answer.refusal e.raised.message kind).text =
          .ok (Tool.refusalDocument (Literal.joined e.raised.message) kind) ∧
        (kind = .notFound → tool.Missing session.store)) ∧
      (e.raised.kind? = none → answered.1 = .error e.raised ∧
        (tool.Overlong ∧ tool.Missing session.store ∧ e.raised = .tooManyDigits ∨
          tool.Unshown ∧ e.raised = .outOfStack))) ∧
    ((∀ caseId submission, tool ≠ .createTry caseId submission) → tool.Missing session.store →
      ∃ e, ended.1 = .error e ∧ (¬ tool.Overlong → e.raised.kind? = some .notFound)) := by
  intro session ended box answered
  have shared : box = some (config, session) := after_eq env config calls Session.start
  have called : answered = (tool.answer ended.1, some (config, ended.2)) := by
    rw [show answered = call env tool (some (config, session)) from congrArg (call env tool) shared]
    rfl
  obtain ⟨allowedBefore, typed, shallow, -⟩ := Tool.allowed_append allowed
  have before : session.store.Presentable :=
    Store.presentable_reached loaded allowedBefore (Nat.lt_of_succ_lt few)
  have reached : Command.reached config ((calls ++ [tool]).map Tool.command) = ended.2 := by
    rw [List.map_append, Store.reached_append]
    rfl
  have later : ended.2.store.Presentable := by
    rw [← reached]
    refine Store.presentable_reached loaded allowed ?_
    rw [List.length_append]
    exact few
  have bounded : session.store.Bounded calls.length := by
    have counted := Store.bounded_reached config (calls.map Tool.command)
    rw [List.length_map] at counted
    exact counted
  have refusal : ∀ {e}, ended.1 = .error e → Tool.Refused session.store tool e := fun failed =>
    Tool.refused_of_error roomy before.kept before.fresh few bounded answers typed shallow failed
  refine ⟨shared, congrArg Prod.snd called, ?_, ?_, ?_⟩
  · intro reply returned
    have documented := Tool.documented_run roomy answers before later returned
    rw [called, returned]
    exact ⟨documented.answer_of_whole roomy, documented.answer_of_broken⟩
  · intro e failed
    have refused := refusal failed
    have raised := refused.raised_cases
    rw [called, failed]
    refine ⟨refused.unchanged failed, ?_, ?_⟩
    · intro kind known
      refine ⟨tool.answer_of_kind known, Tool.Answer.read_text_refusal roomy _ kind, ?_⟩
      rintro rfl
      rcases raised with ⟨kind, same, missing⟩ | ⟨-, missing, -⟩ | ⟨-, other⟩
      · exact missing (Option.some.inj (same.symm.trans known))
      · exact missing
      · rw [other] at known
        cases known
    · intro unknown
      refine ⟨tool.answer_of_kindless unknown, ?_⟩
      rcases raised with ⟨kind, known, -⟩ | others
      · cases unknown.symm.trans known
      · exact others
  · intro other missing
    obtain ⟨e, failed, kind⟩ := Tool.notFound_of_missing answers typed other missing
    refine ⟨e, failed, fun short => ?_⟩
    cases refusal failed with
    | missing _ _ told => rw [told short, kind]
    | invalid invalid _ => cases kind.symm.trans invalid
    | unshown => cases kind

end Toolbox

end

namespace Toolbox

/-- A document with a variable, and with a number that is not finite, is tuned. -/
theorem call_simulates_tuned :
    letI := Platform.usual
    let fields : Record.Members :=
      [(Text.ofString "searchEngine", .str (Text.ofString "es")),
        (Text.ofString "queryParams",
          .str (Text.ofString "\x7b\"q\": [\"\x7bwho\x7d\", NaN]\x7d"))]
    let calls : List Tool :=
      [.createCase (.str (Text.ofString "a")), .createTry 1 (.unread (.obj fields))]
    let tool : Tool :=
      .setCuratorVariable 1 1 (.str (Text.ofString "who")) (.str (Text.ofString "x"))
    let box := after [] calls (some (Config.standard, Session.start))
    ∃ document, (call [] tool box).1 = .ok (.document document) ∧
      Json.read (Tool.Answer.document document).text = .ok document := by
  let _ := Platform.usual
  intro fields calls tool box
  let template := Text.ofString "\x7b\"q\": [\"\x7bwho\x7d\", NaN]\x7d"
  let owned := ((Command.createCase (.str (Text.ofString "a"))).run Config.standard
    Session.start).2
  let draft : Draft Config.standard owned.store 1 (.unread (.obj fields)) :=
    { fields := { TryFields.empty with engine := some .es, queryParams := some template }
      owner := ⟨1, Text.ofString "a", 0⟩
      engine := .es
      defaults := EngineDefaults.standard .es
      vars := ⟨[], 0⟩
      fields_read := by decide +kernel
      owner_found := by decide +kernel
      engine_chosen := rfl
      defaults_found := by decide +kernel
      vars_accepted := rfl }
  let args : Json := .obj
    [(Text.ofString "q", .arr [.str (Text.ofString "\x7bwho\x7d"), .double .nan])]
  have made : ((Command.createTry 1 (.unread (.obj fields))).run Config.standard owned).2.store =
      draft.stored args := by decide +kernel
  have read : Json.read (Json.render .compact (.obj fields)) = .ok (.obj fields) := by
    decide +kernel
  have tuned : tool.Shallow Config.standard
      ((Command.createTry 1 (.unread (.obj fields))).run Config.standard owned).2 := by
    have found : (draft.stored args).findTry 1 1 = some (draft.finished args) := by decide +kernel
    have given : Variables.set (.str (Text.ofString "who")) (.str (Text.ofString "x"))
        ⟨(draft.stored args).variablesOf 1 1, 0⟩ =
          .ok ⟨[(Text.ofString "who", Text.ofString "x")], 1⟩ := by decide +kernel
    rw [← made] at found given
    exact Tool.shallow_of_findTry found given (by decide +kernel)
  have allowed : Tool.Allowed Config.standard (calls ++ [tool]) Session.start :=
    ⟨⟨_, rfl⟩, (fun _ fills => nomatch fills), .inr ⟨_, fields, read, rfl⟩,
      Tool.shallow_of_draft draft (by decide +kernel), ⟨⟨_, rfl⟩, _, rfl⟩, tuned, trivial⟩
  have roomy : Platform.Roomy := ⟨by decide, by decide, by decide, by decide⟩
  have simulated := call_simulates roomy [] Config.standard (by decide +kernel) calls tool trivial
    allowed (by decide +kernel)
  have returned : (tool.command.run Config.standard
      (Command.reached Config.standard (calls.map Tool.command))).1.toOption.map
        Reply.hasBrokenKey = some false := by decide +kernel
  cases ended : (tool.command.run Config.standard
      (Command.reached Config.standard (calls.map Tool.command))).1 with
  | error e =>
    rw [ended] at returned
    cases returned
  | ok reply =>
    rw [ended] at returned
    obtain ⟨document, -, answered, read⟩ :=
      (simulated.2.2.1 reply ended).1 (Option.some.inj returned)
    exact ⟨document, answered, read⟩

/-- A try whose document has a surrogate for a key is made, but the call that makes it fails: the
view of the try cannot be written. -/
theorem call_raises_after_createTry :
    letI := Platform.usual
    let fields : Record.Members :=
      [(Text.ofString "searchEngine", .str (Text.ofString "es")),
        (Text.ofString "queryParams", .str (Text.ofString "\x7b\"\\ud800\": 1\x7d"))]
    let calls : List Tool := [.createCase (.str (Text.ofString "a"))]
    let tool : Tool := .createTry 1 (.unread (.obj fields))
    let session := Command.reached Config.standard (calls.map Tool.command)
    let box := after [] calls (some (Config.standard, Session.start))
    tool.Answers ∧ Tool.Allowed Config.standard (calls ++ [tool]) Session.start ∧
      (∃ view, (tool.command.run Config.standard session).1 = .ok (.view view)) ∧
      (call [] tool box).1 = .error .unencodable := by
  let _ := Platform.usual
  intro fields calls tool session box
  let draft : Draft Config.standard session.store 1 (.unread (.obj fields)) :=
    { fields :=
        { TryFields.empty with
          engine := some .es
          queryParams := some (Text.ofString "\x7b\"\\ud800\": 1\x7d") }
      owner := ⟨1, Text.ofString "a", 0⟩
      engine := .es
      defaults := EngineDefaults.standard .es
      vars := ⟨[], 0⟩
      fields_read := by decide +kernel
      owner_found := by decide +kernel
      engine_chosen := rfl
      defaults_found := by decide +kernel
      vars_accepted := rfl }
  have read : Json.read (Json.render .compact (.obj fields)) = .ok (.obj fields) := by
    decide +kernel
  have made : (tool.command.run Config.standard session).1 =
      .ok (.view ((draft.finished (.obj [([0xD800], .int 1)])).view [])) := by decide +kernel
  refine ⟨trivial, ⟨⟨_, rfl⟩, (fun _ fills => nomatch fills), .inr ⟨_, fields, read, rfl⟩,
    Tool.shallow_of_draft draft (by decide +kernel), trivial⟩, ⟨_, made⟩, by decide +kernel⟩

end Toolbox

end SearchTuning

import SearchTuning.Proofs.Json.Nesting
import SearchTuning.Proofs.Lifecycle.Effect
import SearchTuning.Proofs.Template.Places

/-!
# Operations that fail

An operation that fails leaves the session as it was, whatever it is and whatever it fails on, for
what is submitted is checked before anything is written.  What can still fail then leaves a trace.
A try takes its number before its name and its args are made.  And variables are written before the
try is saved with its args, which may have too many levels to be copied.
-/

namespace SearchTuning

section

variable [Platform]

/-! ## What a template comes to -/

/-- The args that a filled template has.  One that is no document has the args `null`. -/
inductive Args.Compiled : Engine → Text → Json → Prop where
  | parameters (t : Text) : Args.Compiled .solr t (Engine.paramsValue (QueryString.parse t))
  | document {t : Text} {v : Json} (read : Json.read t = .ok v) : Args.Compiled .es t v
  | malformed {t : Text} (read : Json.read t = .error .malformed) : Args.Compiled .es t .null

theorem Try.compiled_of_compile {t : Try} {vars : VariableMap} {args : Json}
    (compiled : t.compile vars none = .ok args) :
    Args.Compiled t.engine (Template.fill vars.lookup t.queryParams) args := by
  rw [Try.compile, Args.compile, Args.materialize] at compiled
  change (t.engine.materialize (Template.fill vars.lookup t.queryParams)).mapError _ = _ at compiled
  rw [mapError_eq_ok] at compiled
  cases engine : t.engine with
  | solr =>
    rw [engine] at compiled
    cases compiled
    exact .parameters _
  | es =>
    rw [engine, Engine.materialize] at compiled
    split at compiled
    · next read =>
      cases compiled
      exact .document read
    · next read =>
      cases compiled
      exact .malformed read
    · cases compiled

/-- A template comes to one value only. -/
theorem Args.Compiled.unique {engine : Engine} {t : Text} {one two : Json}
    (first : Args.Compiled engine t one) (second : Args.Compiled engine t two) : one = two := by
  cases first with
  | parameters =>
    cases second
    rfl
  | document read =>
    cases second with
    | document again => exact Except.ok.inj (read.symm.trans again)
    | malformed again => cases read.symm.trans again
  | malformed read =>
    cases second with
    | document again => cases read.symm.trans again
    | malformed again => rfl

/-- The change that an operation makes to the variables of a try, if it makes any. -/
def Command.change? : Command → Option ((Int × Int) × (Variables → Except Error Variables))
  | .setVariable caseId tryNo name value => some ((caseId, tryNo), fun vars => vars.set name value)
  | .removeVariable caseId tryNo name =>
      some ((caseId, tryNo), fun vars => .ok (vars.remove name).2)
  | _ => none

namespace Lifecycle

open Program

/-! ## Templates that cannot be compiled -/

/-- The text that the template of a draft comes to, with its variables filled in. -/
def Draft.text {config : Config} {store : Store} {caseId : Int} {submission : Submission}
    (draft : Draft config store caseId submission) : Text :=
  Template.fill draft.vars.map.lookup draft.blank.queryParams

/-- A template can fail to compile only as a document that is nested too deeply. -/
theorem compile_eq_error_iff {t : Try} {vars : VariableMap} {e : Error} :
    t.compile vars none = .error e ↔
      t.engine = .es ∧ ∃ container,
        Json.read (Template.fill vars.lookup t.queryParams) = .error (.tooDeep container) ∧
        e = .tooDeep container := by
  rw [Try.compile, Args.compile, Args.materialize]
  change ((t.engine.materialize (Template.fill vars.lookup t.queryParams)).mapError _) = _ ↔ _
  cases engine : t.engine with
  | solr =>
    constructor
    · intro failed
      cases failed
    · rintro ⟨other, -⟩
      cases other
  | es =>
    rw [Engine.materialize]
    cases Json.read (Template.fill vars.lookup t.queryParams) with
    | ok v =>
      constructor
      · intro failed
        cases failed
      · rintro ⟨-, container, deep, -⟩
        cases deep
    | error fault =>
      cases fault with
      | malformed =>
        constructor
        · intro failed
          cases failed
        · rintro ⟨-, container, deep, -⟩
          cases deep
      | tooDeep found =>
        constructor
        · intro failed
          cases failed
          exact ⟨rfl, found, rfl, rfl⟩
        · rintro ⟨-, container, deep, rfl⟩
          cases deep
          rfl

/-! ## What is left behind -/

/-- If it fails, it leaves the session as it was. -/
def FailsClean {α : Type} (session : Session) (ended : Except Error α × Session) : Prop :=
  ∀ e, ended.1 = .error e → ended.2 = session

omit [Platform] in
theorem failsClean_of_same {α : Type} {session : Session} {ended : Except Error α × Session}
    (same : ended.2 = session) : FailsClean session ended :=
  fun _ _ => same

theorem failsClean_map {α β : Type} {session : Session} {p : Program α} (f : α → β)
    (clean : FailsClean session (p.run session)) : FailsClean session ((f <$> p).run session) := by
  intro e failed
  rw [run_map] at failed ⊢
  exact clean e (map_eq_error failed)

variable {config : Config} {session : Session} {caseId tryNo : Int}

omit [Platform] in
theorem CaseOutcome.failsClean {ended : Except Error Case × Session}
    (outcome : CaseOutcome session ended) : FailsClean session ended := by
  intro e failed
  cases outcome with
  | refused cause => rfl
  | made name => cases failed

theorem NameOutcome.failsClean {read : Except Error (Option Text)}
    {ended : Except Error View × Session} (outcome : NameOutcome session caseId tryNo read ended) :
    FailsClean session ended := by
  intro e failed
  cases outcome with
  | refused cause => rfl
  | kept name given t held same => rfl
  | named name given t held other fits => cases failed

omit [Platform] in
theorem DeleteOutcome.failsClean {ended : Except Error Unit × Session}
    (outcome : DeleteOutcome session caseId tryNo ended) : FailsClean session ended := by
  intro e failed
  cases outcome with
  | refused cause => rfl
  | deleted owner found there => cases failed

/-! ## What leaves a trace -/

/-- A change of the variables of a try that comes to args with too many levels to be saved. -/
structure Unsaved (session : Session) (caseId tryNo : Int)
    (change : Variables → Except Error Variables) (vars : Variables) : Prop where
  changed : (Variables.ofEntries (session.store.variablesOf caseId tryNo) >>= change) = .ok vars
  counted : vars.changes ≠ 0
  deep : ∃ t args, heldTry session.store caseId tryNo = .ok t ∧
    t.compile vars.map none = .ok args ∧ Platform.copying < args.levels

/-- The ways in which an operation fails and leaves a trace: the operation, what it fails with, and
the session that is left. -/
inductive Leftover (config : Config) (session : Session) : Command → Error → Session → Prop where
  /-- A number is lost that is too long for the name of its try. -/
  | unnamed {caseId : Int} {submission : Submission}
      (draft : Draft config session.store caseId submission) (unnameable : ¬ draft.Nameable) :
      Leftover config session (.createTry caseId submission) .tooManyDigits
        { session with store := draft.counted }
  /-- A number is lost.  The engine reads documents, and the template has too many containers one in
  the other. -/
  | unread {caseId : Int} {submission : Submission}
      (draft : Draft config session.store caseId submission) (nameable : draft.Nameable)
      (container : Json.Container) (document : draft.engine = .es)
      (deep : Json.read draft.text = .error (.tooDeep container)) :
      Leftover config session (.createTry caseId submission) (.tooDeep container)
        { session with store := draft.counted }
  /-- A number is lost, and the variables that were written under it stay. -/
  | uncreated {caseId : Int} {submission : Submission}
      (draft : Draft config session.store caseId submission) (unsaved : draft.Unsaved) :
      Leftover config session (.createTry caseId submission) .outOfStack
        { session with store := draft.orphaned }
  /-- The variables of a try are changed, and the try keeps its old args. -/
  | untuned {command : Command} {caseId tryNo : Int} {change : Variables → Except Error Variables}
      (changes : command.change? = some ((caseId, tryNo), change)) {vars : Variables}
      (unsaved : Unsaved session caseId tryNo change vars) :
      Leftover config session command .outOfStack
        { session with store := session.store.replaceVariables caseId tryNo vars.map }

/-- If it fails, it leaves the session as it was or one of the traces. -/
def FailsAs {α : Type} (config : Config) (session : Session) (command : Command)
    (ended : Except Error α × Session) : Prop :=
  ∀ e, ended.1 = .error e → ended.2 = session ∨ Leftover config session command e ended.2

theorem CreateOutcome.failsAs {submission : Submission} {ended : Except Error View × Session}
    (outcome : CreateOutcome config session caseId submission ended) :
    FailsAs config session (.createTry caseId submission) ended := by
  intro e failed
  cases outcome with
  | refused cause unready => exact .inl rfl
  | unnamed draft unnameable =>
    cases failed
    exact .inr (.unnamed draft unnameable)
  | lost draft nameable cause uncompiled =>
    cases failed
    obtain ⟨document, container, deep, rfl⟩ := compile_eq_error_iff.mp uncompiled
    exact .inr (.unread draft nameable container document deep)
  | orphaned draft unsaved =>
    cases failed
    exact .inr (.uncreated draft unsaved)
  | made draft nameable args compiled fits => cases failed

/-- Variables are written only after the template has been compiled with them. -/
theorem TuneOutcome.failsAs (config : Config) {command : Command}
    {change : Variables → Except Error Variables}
    (changes : command.change? = some ((caseId, tryNo), change)) {ended : Except Error View × Session}
    (outcome : TuneOutcome session caseId tryNo change ended) :
    FailsAs config session command ended := by
  intro e failed
  cases outcome with
  | refused cause => exact .inl rfl
  | kept t held vars changed none => cases failed
  | tuned t held vars changed some args compiled fits => cases failed
  | stale t held vars changed some args compiled deep =>
    cases failed
    exact .inr (.untuned changes ⟨changed, some, t, args, held, compiled, deep⟩)

/-! ## Traces are left -/

/-- The change is made, and then the try cannot be saved. -/
theorem Unsaved.run_changeVariables {change : Variables → Except Error Variables} {vars : Variables}
    (unsaved : Unsaved session caseId tryNo change vars) :
    (changeVariables caseId tryNo change).run session =
      (.error .outOfStack,
        { session with store := session.store.replaceVariables caseId tryNo vars.map }) := by
  obtain ⟨t, args, held, compiled, deep⟩ := unsaved.deep
  exact run_changeVariables_of_deep held unsaved.changed unsaved.counted compiled deep

theorem Leftover.run {command : Command} {e : Error} {after : Session}
    (leftover : Leftover config session command e after) :
    command.run config session = (.error e, after) := by
  have created {caseId : Int} {submission : Submission} {e : Error} {after : Session}
      (draft : Draft config session.store caseId submission)
      (outcome : CreateOutcome config session caseId submission (.error e, after)) :
      (Command.createTry caseId submission).run config session = (.error e, after) := by
    have ran := (createTry_outcome config session caseId submission).eq_of_draft draft outcome
    rw [Command.run, Command.program, run_map, ran]
    rfl
  cases leftover with
  | unnamed draft unnameable => exact created draft (.unnamed draft unnameable)
  | unread draft nameable container document deep =>
    have uncompiled := compile_eq_error_iff.mpr ⟨document, container, deep, rfl⟩
    exact created draft (.lost draft nameable _ uncompiled)
  | uncreated draft unsaved => exact created draft (.orphaned draft unsaved)
  | untuned changes unsaved =>
    cases command with
    | setVariable caseId tryNo name value =>
      cases changes
      rw [Command.run, Command.program, run_map, setVariable, unsaved.run_changeVariables]
      rfl
    | removeVariable caseId tryNo name =>
      cases changes
      rw [Command.run, Command.program, run_map, removeVariable, unsaved.run_changeVariables]
      rfl
    | _ => cases changes

/-! ## Operations -/

/-- An operation that fails leaves everything as it was, or one of the traces. -/
theorem failsAs_run (config : Config) (session : Session) (command : Command) :
    FailsAs config session command (command.run config session) := by
  intro e failed
  rw [Command.run] at failed ⊢
  cases command with
  | createTry caseId submission =>
    rw [Command.program, run_map] at failed ⊢
    exact (createTry_outcome config session caseId submission).failsAs e (map_eq_error failed)
  | setVariable caseId tryNo name value =>
    rw [Command.program, run_map] at failed ⊢
    exact (setVariable_outcome session caseId tryNo name value).failsAs config rfl e
      (map_eq_error failed)
  | removeVariable caseId tryNo name =>
    rw [Command.program, run_map] at failed ⊢
    exact (removeVariable_outcome session caseId tryNo name).failsAs config rfl e
      (map_eq_error failed)
  | createCase name =>
    exact .inl (failsClean_map _ (createCase_outcome session name).failsClean e failed)
  | updateTry caseId tryNo submission =>
    exact .inl (failsClean_map _ (updateTry_outcome session caseId tryNo submission).failsClean e
      failed)
  | renameTry caseId tryNo name =>
    exact .inl (failsClean_map _ (renameTry_outcome session caseId tryNo name).failsClean e failed)
  | deleteTry caseId tryNo =>
    exact .inl (failsClean_map _ (deleteTry_outcome session caseId tryNo).failsClean e failed)
  | getCase caseId => exact .inl rfl
  | countVariables => exact .inl rfl
  | listTries caseId =>
    refine .inl (failsClean_map _ (failsClean_of_same ?_) e failed)
    rw [run_listTries]
  | getTry caseId tryNo =>
    refine .inl (failsClean_map _ (failsClean_of_same ?_) e failed)
    rw [run_getTry]
  | previewArgs caseId tryNo phrase =>
    refine .inl (failsClean_map _ (failsClean_of_same ?_) e failed)
    rw [run_previewArgs]
  | preview caseId tryNo phrase =>
    refine .inl (failsClean_map _ (failsClean_of_same ?_) e failed)
    rw [run_preview]
  | buildRequest caseId tryNo phrase =>
    refine .inl (failsClean_map _ (failsClean_of_same ?_) e failed)
    rw [run_buildRequest]

/-- An operation that fails leaves every case, try and variable, the number of the next case and the
events that are pending as they were, whatever it fails on, or it leaves one of the traces; and
where a trace can be left, it is.  Only the making of a try and the changes of its variables leave
any, and none of them announces an event. -/
theorem failed_operation_leaves_session (config : Config) (session : Session) (command : Command)
    (e : Error) (after : Session) :
    (command.run config session = (.error e, after) →
      after = session ∨ Leftover config session command e after) ∧
    (Leftover config session command e after →
      command.run config session = (.error e, after) ∧ after.pending = session.pending) ∧
    ((∀ caseId submission, command ≠ .createTry caseId submission) → command.change? = none →
      command.run config session = (.error e, after) → after = session) := by
  have classified : command.run config session = (.error e, after) →
      after = session ∨ Leftover config session command e after := by
    intro failed
    have left := failsAs_run config session command e (congrArg Prod.fst failed)
    rw [failed] at left
    exact left
  refine ⟨classified, ?_, ?_⟩
  · intro leftover
    exact ⟨leftover.run, by cases leftover <;> rfl⟩
  · intro other unchanging failed
    rcases classified failed with same | leftover
    · exact same
    · cases leftover with
      | untuned changes =>
        rw [unchanging] at changes
        cases changes
      | _ => exact absurd rfl (other _ _)

end Lifecycle

end

namespace Lifecycle

/-- A text of twenty thousand opening brackets: making a try of it counts a try more in its case and
fails. -/
theorem failed_operation_leaves_session_nested :
    letI := Platform.usual
    let session : Session :=
      { Session.start with store := (Session.start.store.createCase (Text.ofString "a")).2 }
    let submission : Submission := .unread (.obj
      [(Text.ofString "searchEngine", .str (Text.ofString "es")),
        (Text.ofString "queryParams", .str (List.replicate 20000 (CodePoint.ofChar '[')))])
    let after : Session :=
      { session with store := { session.store with cases := [(1, ⟨1, Text.ofString "a", 1⟩)] } }
    (Command.createTry 1 submission).run Config.standard session =
      (.error (.tooDeep .array), after) ∧
    (after = session ∨
      Leftover Config.standard session (.createTry 1 submission) (.tooDeep .array) after) := by
  let _ := Platform.usual
  intro session submission after
  let nested : Text := List.replicate 20000 (CodePoint.ofChar '[')
  let draft : Draft Config.standard session.store 1 submission :=
    { fields := { TryFields.empty with engine := some .es, queryParams := some nested }
      owner := ⟨1, Text.ofString "a", 0⟩
      engine := .es
      defaults := EngineDefaults.standard .es
      vars := ⟨[], 0⟩
      fields_read := rfl
      owner_found := rfl
      engine_chosen := rfl
      defaults_found := rfl
      vars_accepted := rfl }
  have first : Numeral.fits 1 = true := by decide +kernel
  have nameable : draft.Nameable := .inr first
  have plain : draft.text = nested := by
    refine Template.fill_of_not_mem fun member => ?_
    exact absurd (List.eq_of_mem_replicate member) (by decide)
  have deep : Json.read draft.text = .error (.tooDeep .array) := by
    rw [plain]
    exact Json.read_replicate_openBracket (by decide)
  have leftover : Leftover Config.standard session (.createTry 1 submission) (.tooDeep .array) after :=
    .unread draft nameable .array rfl deep
  exact ⟨((failed_operation_leaves_session _ _ _ _ _).2.1 leftover).1,
    (failed_operation_leaves_session _ _ _ _ _).1
      ((failed_operation_leaves_session _ _ _ _ _).2.1 leftover).1⟩

/-- A document that is one variable is given a value of six hundred arrays, one in the other.  The
value is written, and then the try cannot be saved. -/
theorem setVariable_fails_and_writes :
    letI := Platform.usual
    let nested : Text :=
      List.replicate 600 (CodePoint.ofChar '[') ++ List.replicate 600 (CodePoint.ofChar ']')
    let commands : List Command :=
      [.createCase (.str (Text.ofString "a")),
        .createTry 1 (.unread (.obj
          [(Text.ofString "searchEngine", .str (Text.ofString "es")),
            (Text.ofString "queryParams", .str (Text.ofString "\x7bx\x7d")),
            (Text.ofString "curatorVars",
              .obj [(Text.ofString "x", .str (Text.ofString "1"))])]))]
    let session := (Command.runAll Config.standard commands Session.start).2
    let ended :=
      (Command.setVariable 1 1 (.str (Text.ofString "x")) (.str nested)).run Config.standard session
    ended.1 = .error .outOfStack ∧
    session.store.variablesOf 1 1 = [(Text.ofString "x", Text.ofString "1")] ∧
    ended.2.store.variablesOf 1 1 = [(Text.ofString "x", nested)] := by
  decide +kernel

end Lifecycle

end SearchTuning

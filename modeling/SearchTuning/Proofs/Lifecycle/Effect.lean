import SearchTuning.Command
import SearchTuning.Proofs.Lifecycle.Outcome
import SearchTuning.Proofs.Variables

/-!
# What an operation can do to a session

Whatever the operation and however it ends, it does one of nine things to a session.  So what each
of the nine preserves holds throughout every history.
-/

namespace SearchTuning.Lifecycle

open Program

variable [Platform]

/-- What an operation can do. -/
inductive Effect (config : Config) (session : Session) : Command → Session → Prop where
  /-- It only reads, or it is refused. -/
  | nothing (command : Command) : Effect config session command session
  | caseMade (name : Text) :
      Effect config session (.createCase (.str name))
        { session with store := (session.store.createCase name).2 }
  /-- A number is taken for a try that cannot be named or whose template cannot be compiled. -/
  | numberLost {caseId : Int} {submission : Submission}
      (draft : Draft config session.store caseId submission) :
      Effect config session (.createTry caseId submission)
        { session with store := draft.counted }
  /-- A number is taken and variables are written for a try that cannot be saved. -/
  | tryLost {caseId : Int} {submission : Submission}
      (draft : Draft config session.store caseId submission) (unsaved : draft.Unsaved) :
      Effect config session (.createTry caseId submission)
        { session with store := draft.orphaned }
  | tryMade {caseId : Int} {submission : Submission}
      (draft : Draft config session.store caseId submission) (args : Json)
      (compiled : draft.blank.compile draft.vars.map none = .ok args)
      (fits : args.levels ≤ Platform.copying) (pending : List Event) :
      Effect config session (.createTry caseId submission) { store := draft.stored args, pending }
  | tryNamed (command : Command) {caseId tryNo : Int} {t : Try}
      (found : session.store.findTry caseId tryNo = some t) (name : Text) :
      Effect config session command
        { session with store := session.store.putTry { t with name } }
  | tryDeleted (caseId tryNo : Int) :
      Effect config session (.deleteTry caseId tryNo)
        { session with store := (session.store.deleteTry caseId tryNo).2 }
  /-- The variables of a try are changed, and its args compiled anew. -/
  | tryTuned (command : Command) {caseId tryNo : Int} {t : Try}
      (found : session.store.findTry caseId tryNo = some t) {vars : VariableMap}
      (tidy : vars.Tidy) {args : Json} (compiled : t.compile vars none = .ok args)
      (fits : args.levels ≤ Platform.copying) :
      Effect config session command
        { session with
          store := (session.store.replaceVariables caseId tryNo vars).putTry { t with args } }
  /-- The variables of a try are changed, and the args that go with them cannot be saved. -/
  | tryStale (command : Command) {caseId tryNo : Int} {t : Try}
      (found : session.store.findTry caseId tryNo = some t) {vars : VariableMap}
      (tidy : vars.Tidy) {args : Json} (compiled : t.compile vars none = .ok args)
      (deep : Platform.copying < args.levels) :
      Effect config session command
        { session with store := session.store.replaceVariables caseId tryNo vars }

variable {config : Config} {session : Session} {caseId tryNo : Int}

theorem createCase_effect (config : Config) (session : Session) (name : Json) :
    Effect config session (.createCase name) ((createCase name).run session).2 := by
  cases name with
  | str name => exact .caseMade name
  | _ => exact .nothing _

theorem CreateOutcome.effect {submission : Submission} {ended : Except Error View × Session}
    (outcome : CreateOutcome config session caseId submission ended) :
    Effect config session (.createTry caseId submission) ended.2 := by
  cases outcome with
  | refused e unready => exact .nothing _
  | unnamed draft unnameable => exact .numberLost draft
  | lost draft nameable e failed => exact .numberLost draft
  | orphaned draft unsaved => exact .tryLost draft unsaved
  | made draft nameable args compiled fits => exact .tryMade draft args compiled fits _

theorem NameOutcome.effect (command : Command) {read : Except Error (Option Text)}
    {ended : Except Error View × Session} (outcome : NameOutcome session caseId tryNo read ended) :
    Effect config session command ended.2 := by
  cases outcome with
  | refused e => exact .nothing command
  | kept name given t held same => exact .nothing command
  | named name given t held other fits =>
    exact .tryNamed command (findTry_of_heldTry held) _

theorem DeleteOutcome.effect {ended : Except Error Unit × Session}
    (outcome : DeleteOutcome session caseId tryNo ended) :
    Effect config session (.deleteTry caseId tryNo) ended.2 := by
  cases outcome with
  | refused e => exact .nothing _
  | deleted owner found there => exact .tryDeleted caseId tryNo

theorem TuneOutcome.effect (command : Command) {change : Variables → Except Error Variables}
    (keeps : ∀ vars after, vars.map.Tidy → change vars = .ok after → after.map.Tidy)
    {ended : Except Error View × Session}
    (outcome : TuneOutcome session caseId tryNo change ended) :
    Effect config session command ended.2 := by
  have tidy {vars : Variables}
      (changed : (Variables.ofEntries (session.store.variablesOf caseId tryNo) >>= change) =
        .ok vars) : vars.map.Tidy := by
    obtain ⟨current, given, changed⟩ := exists_of_bind_eq_ok changed
    exact keeps current vars (Variables.tidy_ofEntries given).1 changed
  cases outcome with
  | refused e => exact .nothing command
  | kept t held vars changed none => exact .nothing command
  | tuned t held vars changed some args compiled fits =>
    exact .tryTuned command (findTry_of_heldTry held) (tidy changed) compiled fits
  | stale t held vars changed some args compiled deep =>
    exact .tryStale command (findTry_of_heldTry held) (tidy changed) compiled deep

/-- Whatever the operation, its effect is one of the nine. -/
theorem effect_run (config : Config) (session : Session) (command : Command) :
    Effect config session command (command.run config session).2 := by
  rw [Command.run]
  cases command with
  | createCase name =>
    rw [Command.program, run_map]
    exact createCase_effect config session name
  | getCase caseId => exact .nothing _
  | countVariables => exact .nothing _
  | listTries caseId =>
    rw [Command.program, run_map, run_listTries]
    exact .nothing _
  | getTry caseId tryNo =>
    rw [Command.program, run_map, run_getTry]
    exact .nothing _
  | createTry caseId submission =>
    rw [Command.program, run_map]
    exact (createTry_outcome config session caseId submission).effect
  | updateTry caseId tryNo submission =>
    rw [Command.program, run_map]
    exact (updateTry_outcome session caseId tryNo submission).effect _
  | renameTry caseId tryNo name =>
    rw [Command.program, run_map]
    exact (renameTry_outcome session caseId tryNo name).effect _
  | deleteTry caseId tryNo =>
    rw [Command.program, run_map]
    exact (deleteTry_outcome session caseId tryNo).effect
  | setVariable caseId tryNo name value =>
    rw [Command.program, run_map]
    refine (changeVariables_outcome session caseId tryNo _).effect _ ?_
    exact fun vars after tidy changed => Variables.tidy_set tidy changed
  | removeVariable caseId tryNo name =>
    rw [Command.program, run_map]
    refine (changeVariables_outcome session caseId tryNo _).effect _ ?_
    intro vars after tidy changed
    cases changed
    exact Variables.tidy_remove tidy name
  | previewArgs caseId tryNo phrase =>
    rw [Command.program, run_map, run_previewArgs]
    exact .nothing _
  | preview caseId tryNo phrase =>
    rw [Command.program, run_map, run_preview]
    exact .nothing _
  | buildRequest caseId tryNo phrase =>
    rw [Command.program, run_map, run_buildRequest]
    exact .nothing _

/-- What holds at the start of a history and is preserved by every effect holds throughout. -/
theorem runAll_induction {motive : Session → Prop} (config : Config)
    (step : ∀ command before after, Effect config before command after → motive before →
      motive after)
    (commands : List Command) {session : Session} (start : motive session) :
    motive (Command.runAll config commands session).2 := by
  induction commands generalizing session with
  | nil => exact start
  | cons command commands ih =>
    exact ih (step command _ _ (effect_run config session command) start)

end SearchTuning.Lifecycle

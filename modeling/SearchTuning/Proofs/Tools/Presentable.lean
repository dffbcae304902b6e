import SearchTuning.Proofs.Args
import SearchTuning.Proofs.Fields.Count
import SearchTuning.Proofs.Json.Shown
import SearchTuning.Proofs.Lifecycle.Failure
import SearchTuning.Proofs.Lifecycle.Spelling
import SearchTuning.Proofs.Store.Bounds
import SearchTuning.Proofs.Store.Views
import SearchTuning.Tools

/-!
# Tries that can be shown

The tools write what they answer as JSON, so all that is stored must be such that it can be
written.  Calls with arguments of the right kinds, whose templates are not nested too deeply, store
nothing else.
-/

namespace SearchTuning

open Lifecycle

variable [Platform]

/-! ## Room -/

/-- The platform has room for what the tools handle: documents that nest two hundred levels can be
read and saved, the list of their views can be printed and read back, and a name can be shown. -/
structure Platform.Roomy : Prop where
  reading : shownLevels + 3 ≤ Platform.reading
  copying : 201 ≤ Platform.copying
  showing : 1 ≤ Platform.showing
  printing : shownLevels + 3 ≤ Platform.printing

/-! ## Calls that are allowed -/

namespace Tool

/-- Names and values are texts, and the fields of a try are an object that some text is read as, or
are left out. -/
def WellTyped : Tool → Prop
  | .createCase name | .renameTry _ _ name => ∃ t, name = .str t
  | .createTry _ submission =>
      submission = .absent ∨
        ∃ text members, Json.read text = .ok (.obj members) ∧ submission = .unread (.obj members)
  | .setCuratorVariable _ _ name value => (∃ t, name = .str t) ∧ ∃ t, value = .str t
  | .listTries _ | .getTry .. | .deleteTry .. | .previewArgs .. => True

/-- The call stores a try, and this is what its template comes to, for the engine that takes
documents. -/
inductive Fills (config : Config) (session : Session) : Tool → Text → Prop
  | made {caseId : Int} {submission : Submission}
      (draft : Draft config session.store caseId submission) (es : draft.engine = .es) :
      Fills config session (.createTry caseId submission) draft.text
  | tuned {caseId tryNo : Int} {name value : Json} {t : Try} {vars : Variables}
      (found : session.store.findTry caseId tryNo = some t) (es : t.engine = .es)
      (changed :
        Variables.set name value ⟨session.store.variablesOf caseId tryNo, 0⟩ = .ok vars) :
      Fills config session (.setCuratorVariable caseId tryNo name value)
        (Template.fill vars.map.lookup t.queryParams)

/-- What the template of a call comes to nests two hundred levels at most. -/
def Shallow (config : Config) (session : Session) (tool : Tool) : Prop :=
  ∀ text, tool.Fills config session text → Json.nesting text ≤ 200

/-- All calls, one after the other, have arguments of the right kinds and templates that are not
nested too deeply. -/
def Allowed (config : Config) : List Tool → Session → Prop
  | [], _ => True
  | tool :: tools, session =>
      tool.WellTyped ∧ tool.Shallow config session ∧
        Allowed config tools (tool.command.run config session).2

end Tool

/-! ## Tries -/

/-- What the template comes to nests two hundred levels at most, for the engine that takes
documents. -/
def Try.Shallow (t : Try) (vars : VariableMap) : Prop :=
  t.engine = .es → Json.nesting (Template.fill vars.lookup t.queryParams) ≤ 200

namespace Try.Shallow

variable {t : Try} {vars : VariableMap} (shallow : t.Shallow vars)

include shallow

theorem readable {args : Json} (compiled : t.compile vars none = .ok args) :
    args.Readable 200 ∧ args.Settled := by
  rw [Shallow] at shallow
  have compiled := Try.compiled_of_compile compiled
  generalize t.engine = engine at shallow compiled
  generalize Template.fill vars.lookup t.queryParams = text at shallow compiled
  cases compiled with
  | parameters text =>
    obtain ⟨readable, settled⟩ := Engine.readable_paramsValue text
    exact ⟨readable.mono (by decide), settled⟩
  | document read =>
    obtain ⟨readable, settled⟩ := Json.readable_nesting_of_read read
    exact ⟨readable.mono (shallow rfl), settled⟩
  | malformed read => exact ⟨.scalar trivial, .scalar _⟩

variable (roomy : Platform.Roomy)

include roomy

/-- There is room to save the args. -/
theorem fits {args : Json} (compiled : t.compile vars none = .ok args) :
    args.levels ≤ Platform.copying :=
  Nat.le_trans (shallow.readable compiled).1.nested.levels_le roomy.copying

/-- There is room to read the template. -/
theorem compile_ne_error {e : Error} : t.compile vars none ≠ .error e := by
  intro failed
  obtain ⟨es, container, deep, -⟩ := compile_eq_error_iff.mp failed
  have room : 200 ≤ Platform.reading := Nat.le_trans (by decide) roomy.reading
  exact Nat.not_lt.mpr (Nat.le_trans (shallow es) room) (Json.lt_nesting_of_read deep)

/-- The args that are kept are those that the template comes to. -/
theorem compile_eq (fresh : t.Fresh vars) : t.compile vars none = .ok t.args := by
  obtain ⟨args, compiled, -⟩ := fresh.compiled
  rw [fresh.args_eq compiled (shallow.fits roomy compiled)]
  exact compiled

end Try.Shallow

/-- Its number of rows has few enough digits, and its template comes to few enough levels. -/
structure Try.Presentable (t : Try) (vars : VariableMap) : Prop where
  rows : (Scalar.int t.numberOfRows).Readable
  shallow : t.Shallow vars

namespace Try.Presentable

variable {t : Try} {vars : VariableMap}

theorem showable_view (presentable : t.Presentable vars)
    (compiled : t.compile vars none = .ok t.args) (distinct : Table.Distinct vars)
    (numbered : (Scalar.int t.tryNo).Readable) : (t.view vars).Showable where
  tryNo := numbered
  numberOfRows := presentable.rows
  args := ⟨200, by decide, (presentable.shallow.readable compiled).1⟩
  settled := (presentable.shallow.readable compiled).2
  vars := distinct

end Try.Presentable

/-! ## Calls -/

variable {env : Settings.Environment} {config : Config}

theorem Tool.readable_of_forCreate {caseId : Int} {submission : Submission}
    (typed : (Tool.createTry caseId submission).WellTyped) {fields : TryFields}
    (read : submission.forCreate = .ok fields) {n : Int} (given : fields.numberOfRows = some n) :
    (Scalar.int n).Readable := by
  rcases typed with rfl | ⟨text, members, parsed, rfl⟩
  · cases read
    cases given
  · rw [Submission.forCreate_members, mapError_eq_ok, Checked.toExcept_eq_ok] at read
    have readable := (Json.readable_nesting_of_read parsed).1
    generalize Json.nesting text = room at readable
    cases readable with
    | obj each => exact TryFields.readable_of_ofMembers each read given

/-- The number of rows of a new try is a submitted one or that of its engine's defaults. -/
theorem Lifecycle.Draft.readable_rows (loaded : Settings.load env = .ok config) {store : Store}
    {caseId : Int} {submission : Submission} (typed : (Tool.createTry caseId submission).WellTyped)
    (draft : Draft config store caseId submission) :
    (Scalar.int draft.blank.numberOfRows).Readable := by
  change (Scalar.int (draft.fields.numberOfRows.getD draft.defaults.numberOfRows)).Readable
  cases given : draft.fields.numberOfRows with
  | some n => exact Tool.readable_of_forCreate typed draft.fields_read given
  | none => exact Settings.readable_of_load loaded draft.defaults_found

namespace Store

variable {session : Session}

/-- A try can be shown also with a variable that a call gives a value to. -/
theorem presentable_of_changed (each : session.store.Each Try.Presentable)
    (kept : session.store.Integrity) {caseId tryNo : Int} {name value : Json}
    (shallow : (Tool.setCuratorVariable caseId tryNo name value).Shallow config session) {t : Try}
    (found : session.store.findTry caseId tryNo = some t) {vars : Variables}
    (changed : (Variables.ofEntries (session.store.variablesOf caseId tryNo) >>=
      fun vars => vars.set name value) = .ok vars) : t.Presentable vars.map where
  rows := (each.of_findTry found).rows
  shallow := by
    rw [kept.ofEntries_bind] at changed
    exact fun es => shallow _ (.tuned found es changed)

/-- A call that is allowed leaves only tries that can be shown. -/
theorem Each.run_tool (each : session.store.Each Try.Presentable) (kept : session.store.Integrity)
    (loaded : Settings.load env = .ok config) {tool : Tool} (typed : tool.WellTyped)
    (shallow : tool.Shallow config session) :
    (tool.command.run config session).2.store.Each Try.Presentable := by
  cases tool with
  | createCase name =>
    have outcome := createCase_outcome session name
    rw [Tool.command, Command.run, Command.program, Program.run_map]
    generalize (Lifecycle.createCase name).run session = ended at outcome
    cases outcome with
    | refused e => exact each
    | made name => exact each
  | listTries caseId =>
    rw [Tool.command, Command.run, Command.program, Program.run_map, run_listTries]
    exact each
  | getTry caseId tryNo =>
    rw [Tool.command, Command.run, Command.program, Program.run_map, run_getTry]
    exact each
  | createTry caseId submission =>
    have outcome := createTry_outcome config session caseId submission
    rw [Tool.command, Command.run, Command.program, Program.run_map]
    generalize (Lifecycle.createTry config caseId submission).run session = ended at outcome
    cases outcome with
    | refused e unready => exact each
    | unnamed draft unnameable => exact each
    | lost draft nameable e failed => exact each
    | orphaned draft unsaved => exact each.orphaned kept draft
    | made draft nameable args compiled fits =>
      exact each.stored kept draft
        ⟨draft.readable_rows loaded typed, fun es => shallow _ (.made draft es)⟩
  | renameTry caseId tryNo name =>
    have outcome := renameTry_outcome session caseId tryNo name
    rw [Tool.command, Command.run, Command.program, Program.run_map]
    generalize (Lifecycle.renameTry caseId tryNo name).run session = ended at outcome
    cases outcome with
    | refused e => exact each
    | kept name given t held same => exact each
    | named name given t held other fits =>
      have found := findTry_of_heldTry held
      have here := each.of_findTry found
      exact each.named kept found ⟨here.rows, here.shallow⟩
  | deleteTry caseId tryNo =>
    have outcome := deleteTry_outcome session caseId tryNo
    rw [Tool.command, Command.run, Command.program, Program.run_map]
    generalize (Lifecycle.deleteTry caseId tryNo).run session = ended at outcome
    cases outcome with
    | refused e => exact each
    | deleted owner found there => exact each.deleteTry caseId tryNo
  | setCuratorVariable caseId tryNo name value =>
    have outcome := setVariable_outcome session caseId tryNo name value
    rw [Tool.command, Command.run, Command.program, Program.run_map]
    generalize (Lifecycle.setVariable caseId tryNo name value).run session = ended at outcome
    cases outcome with
    | refused e => exact each
    | kept t held vars changed none => exact each
    | tuned t held vars changed some args compiled fits =>
      have found := findTry_of_heldTry held
      have here := presentable_of_changed each kept shallow found changed
      exact each.tuned kept found ⟨here.rows, here.shallow⟩
    | stale t held vars changed some args compiled deep =>
      have found := findTry_of_heldTry held
      exact each.stale kept found (presentable_of_changed each kept shallow found changed)
  | previewArgs caseId tryNo phrase =>
    rw [Tool.command, Command.run, Command.program, Program.run_map, run_preview]
    exact each

theorem Each.runAll_tools (each : session.store.Each Try.Presentable)
    (kept : session.store.Integrity) (loaded : Settings.load env = .ok config) {calls : List Tool}
    (allowed : Tool.Allowed config calls session) :
    (Command.runAll config (calls.map Tool.command) session).2.store.Each Try.Presentable := by
  induction calls generalizing session with
  | nil => exact each
  | cons tool calls ih =>
    obtain ⟨typed, shallow, later⟩ := allowed
    have does := effect_run config session tool.command
    exact ih (each.run_tool kept loaded typed shallow) (kept.effect does) later

/-! ## Stores -/

/-- Every view of the store can be written as JSON, but for the keys of its args. -/
structure Presentable (store : Store) : Prop where
  kept : store.Integrity
  fresh : store.Fresh
  each : store.Each Try.Presentable
  few : ∃ k : Nat, k < 10 ^ Numeral.digitLimit ∧ store.Bounded k

namespace Presentable

variable {store : Store} (presentable : store.Presentable) {caseId tryNo : Int} {t : Try}

include presentable

theorem readable_numbers (found : store.findTry caseId tryNo = some t) :
    (Scalar.int caseId).Readable ∧ (Scalar.int tryNo).Readable := by
  obtain ⟨k, few, bounded⟩ := presentable.few
  have within : ∀ n : Int, 1 ≤ n → n ≤ k → (Scalar.int n).Readable := by
    intro n positive small
    exact Scalar.readable_of_lt (Nat.lt_of_le_of_lt (by omega) few)
  obtain ⟨⟨first, last⟩, least, greatest⟩ := bounded.of_findTry presentable.kept found
  exact ⟨within caseId first last, within tryNo least greatest⟩

theorem showable (roomy : Platform.Roomy) (found : store.findTry caseId tryNo = some t) :
    (t.view (store.variablesOf caseId tryNo)).Showable := by
  have numbered := (presentable.kept.findTry_filed found).2
  have here := presentable.each.of_findTry found
  have compiled := here.shallow.compile_eq roomy (presentable.fresh.of_findTry found)
  exact here.showable_view compiled (presentable.kept.tidy_variablesOf caseId tryNo).distinct
    (numbered.symm ▸ (presentable.readable_numbers found).2)

theorem showable_of_viewOf (roomy : Platform.Roomy) {view : View}
    (stored : store.viewOf caseId tryNo = some view) : view.Showable := by
  obtain ⟨t, found, rfl⟩ := Option.map_eq_some_iff.mp stored
  exact presentable.showable roomy found

end Presentable

/-- Calls that are allowed, fewer than any reader reads numbers, leave a store that can be shown. -/
theorem presentable_reached (loaded : Settings.load env = .ok config) {calls : List Tool}
    (allowed : Tool.Allowed config calls Session.start)
    (few : calls.length < 10 ^ Numeral.digitLimit) :
    (Command.reached config (calls.map Tool.command)).store.Presentable where
  kept := integrity_reached config _
  fresh := fresh_reached config _
  each := by
    have start : Session.start.store.Each Try.Presentable := fun _ member => nomatch member
    exact start.runAll_tools integrity_empty loaded allowed
  few := by
    refine ⟨calls.length, few, ?_⟩
    have bounded := bounded_reached config (calls.map Tool.command)
    rw [List.length_map] at bounded
    exact bounded

end Store

end SearchTuning

import SearchTuning.Proofs.Store.Tuning
import SearchTuning.Proofs.Tools.Presentable
import SearchTuning.Proofs.Tries.Refused

/-!
# What a call is refused for

A call that is allowed fails with an error of the domain: either what it addresses is not there, or
something that was handed over is invalid.  Where what it addresses is not there, that is what it is
refused for, except that the fields of a new try are read before its case is looked for.  There are
two exceptions.  A number with too many digits cannot be told in a message, and the check of a
variable with too many levels uses up the stack.
-/

namespace SearchTuning

open Lifecycle Program

/-! ## Errors of the domain -/

section

variable [Platform] {e : Error}

/-- That something is not there is told, unless one of its numbers has too many digits. -/
theorem Error.raised_of_notFound (kind : e.kind? = some .notFound) :
    e.raised = e ∨ e.raised = .tooManyDigits := by
  cases e with
  | caseNotFound caseId =>
    rw [raised]
    split
    · exact .inl rfl
    · exact .inr rfl
  | tryNotFound caseId tryNo =>
    rw [raised]
    split
    · exact .inl rfl
    · exact .inr rfl
  | _ => cases kind

/-- A name that is a text is told if there is any room at all. -/
theorem Error.raised_invalidVariableName (room : 1 ≤ Platform.showing) (name : Text) :
    (Error.invalidVariableName (.str name)).raised = .invalidVariableName (.str name) := by
  have walked : Json.Walk.showing.check Platform.showing (.str name) = .ok () := by
    rw [Json.Walk.check, if_neg]
    simp only [Bool.and_eq_true, decide_eq_true_eq, not_and]
    intro _
    omega
  rw [raised, walked]

end

theorem VariableName.check_eq_error {name : Text} {e : Error} (failed : check (.str name) = .error e) :
    e = .invalidVariableName (.str name) := by
  rw [check] at failed
  split at failed
  · cases failed
  · cases failed
    rfl

namespace Variables

variable {e : Error}

theorem set_eq_error [Platform] {name value : Text} {vars : Variables}
    (failed : vars.set (.str name) (.str value) = .error e) :
    e = .invalidVariableName (.str name) := by
  rcases bind_eq_error failed with unshown | ⟨text, -, failed⟩
  · cases unshown
  rcases bind_eq_error failed with checked | ⟨name, -, impossible⟩
  · exact VariableName.check_eq_error checked
  · cases impossible

theorem ofEntries_eq_error {entries : List (Text × Text)} (failed : ofEntries entries = .error e) :
    ∃ name, e = .invalidVariableName (.str name) := by
  rcases bind_eq_error failed with folded | ⟨map, -, impossible⟩
  · obtain ⟨before, entry, -, stepped⟩ := exists_of_foldlM_eq_error folded
    rcases bind_eq_error stepped with checked | ⟨name, -, impossible⟩
    · exact ⟨entry.1, VariableName.check_eq_error checked⟩
    · cases impossible
  · cases impossible

end Variables

namespace Lifecycle

variable {store : Store} {caseId tryNo : Int} {e : Error}

theorem chosenEngine_eq_error {config : Config} {fields : TryFields}
    (failed : chosenEngine config fields = .error e) : ∃ tag, e = .unknownDefaultEngine tag := by
  rw [chosenEngine] at failed
  split at failed
  · cases failed
  · rw [Config.engineByDefault] at failed
    split at failed
    · cases failed
    · cases failed
      exact ⟨_, rfl⟩

theorem defaultsFor_eq_error {config : Config} {tag : Text}
    (failed : config.defaultsFor tag = .error e) : e = .noDefaults tag := by
  rw [Config.defaultsFor] at failed
  split at failed
  · cases failed
  · cases failed
    rfl

variable [Platform]

theorem raised_of_heldCase (failed : heldCase store caseId = .error e)
    (fits : Numeral.fits caseId = true) : e.raised = e := by
  rw [heldCase] at failed
  split at failed
  · cases failed
  · cases failed
    exact if_pos fits

theorem raised_of_heldTry (failed : heldTry store caseId tryNo = .error e)
    (first : Numeral.fits caseId = true) (second : Numeral.fits tryNo = true) : e.raised = e := by
  rw [heldTry] at failed
  split at failed
  · next cause missing =>
    cases failed
    exact raised_of_heldCase missing first
  · cases failed
  · cases failed
    exact if_pos (by rw [first, second]; rfl)

/-! ## Operations on a try -/

variable {session : Session}

theorem run_renameTry_text (session : Session) (caseId tryNo : Int) (name : Text) :
    (renameTry caseId tryNo (.str name)).run session =
      (nameTry caseId tryNo (some name)).run session := rfl

theorem result_deleteTry (session : Session) (caseId tryNo : Int) :
    ((deleteTry caseId tryNo).run session).1 =
      (heldTry session.store caseId tryNo).map fun _ => () := by
  rw [deleteTry, run_requireCase_bind, heldTry]
  cases heldCase session.store caseId with
  | error e => rfl
  | ok owner =>
    rw [run_ok_bind, run_deleteTry_bind, Store.deleteTry, Table.has, ← Store.findTry]
    cases session.store.findTry caseId tryNo <;> rfl

/-! ## Making a try -/

/-- From a draft on the making of a try can fail for its name, its template or its levels. -/
theorem CreateOutcome.eq_error_of_draft {config : Config} {submission : Submission}
    {ended : Except Error View × Session}
    (outcome : CreateOutcome config session caseId submission ended)
    (draft : Draft config session.store caseId submission) (failed : ended.1 = .error e) :
    ¬ draft.Nameable ∨ draft.blank.compile draft.vars.map none = .error e ∨ draft.Unsaved := by
  cases outcome with
  | refused cause unready => exact (unready draft).elim
  | unnamed other unnameable => exact .inl (other.unique draft ▸ unnameable)
  | lost other nameable cause uncompiled =>
    cases failed
    exact .inr (.inl (other.unique draft ▸ uncompiled))
  | orphaned other unsaved => exact .inr (.inr (other.unique draft ▸ unsaved))
  | made other nameable args compiled fits => cases failed

/-- What the making of a try can be refused for. -/
theorem createTry_eq_error {config : Config} {submission : Submission}
    (failed : ((createTry config caseId submission).run session).1 = .error e) :
    submission.forCreate = .error e ∨ heldCase session.store caseId = .error e ∨
      (∃ fields, chosenEngine config fields = .error e) ∨
      (∃ tag, config.defaultsFor tag = .error e) ∨
      (∃ entries, Variables.ofEntries entries = .error e) ∨
      ∃ draft : Draft config session.store caseId submission,
        ¬ draft.Nameable ∨ draft.blank.compile draft.vars.map none = .error e ∨ draft.Unsaved := by
  have outcome := createTry_outcome config session caseId submission
  have ended := failed
  rcases run_ofExcept_bind_eq_error failed with read | ⟨fields, read, failed⟩
  · exact .inl read
  refine .inr ?_
  rw [run_requireCase_bind] at failed
  rcases run_ofExcept_bind_eq_error failed with held | ⟨owner, held, failed⟩
  · exact .inl held
  refine .inr ?_
  rcases run_ofExcept_bind_eq_error failed with chosen | ⟨engine, chosen, failed⟩
  · exact .inl ⟨fields, chosen⟩
  refine .inr ?_
  rcases run_ofExcept_bind_eq_error failed with defaulted | ⟨defaults, defaulted, failed⟩
  · exact .inl ⟨engine.tag, defaulted⟩
  refine .inr ?_
  rcases run_ofExcept_bind_eq_error failed with accepted | ⟨vars, accepted, failed⟩
  · exact .inl ⟨fields.curatorVars, accepted⟩
  let draft : Draft config session.store caseId submission :=
    ⟨fields, owner, engine, defaults, vars, read, findCase_of_heldCase held, chosen, defaulted,
      accepted⟩
  exact .inr ⟨draft, outcome.eq_error_of_draft draft ended⟩

end Lifecycle

/-! ## Calls -/

namespace Tool

/-- The tools that answer for one operation with what it returns. -/
def Answers : Tool → Prop
  | .createCase _ | .previewArgs .. => False
  | _ => True

/-- The case or the try that a call addresses is not there. -/
def Missing (store : Store) : Tool → Prop
  | .createCase _ => False
  | .listTries caseId | .createTry caseId _ => store.findCase caseId = none
  | .getTry caseId tryNo | .renameTry caseId tryNo _ | .deleteTry caseId tryNo
  | .setCuratorVariable caseId tryNo .. | .previewArgs caseId tryNo _ =>
      store.findCase caseId = none ∨ store.findTry caseId tryNo = none

/-- A number by which a call addresses something has too many digits for a message. -/
def Overlong : Tool → Prop
  | .createCase _ => False
  | .listTries caseId | .createTry caseId _ => Numeral.fits caseId = false
  | .getTry caseId tryNo | .renameTry caseId tryNo _ | .deleteTry caseId tryNo
  | .setCuratorVariable caseId tryNo .. | .previewArgs caseId tryNo _ =>
      Numeral.fits caseId = false ∨ Numeral.fits tryNo = false

variable [Platform]

/-- A variable of a new try is given a value with too many levels to be shown. -/
def Unshown : Tool → Prop
  | .createTry _ (.unread (.obj members)) => TryFields.Unshown members
  | _ => False

/-- What a call can be refused for. -/
inductive Refused (store : Store) : Tool → Error → Prop
  | missing {tool : Tool} {e : Error} (missing : tool.Missing store)
      (kind : e.kind? = some .notFound) (told : ¬ tool.Overlong → e.raised = e) :
      Refused store tool e
  | invalid {tool : Tool} {e : Error} (kind : e.kind? = some .invalid) (told : e.raised = e) :
      Refused store tool e
  | unshown {caseId : Int} {submission : Submission}
      (unshown : (Tool.createTry caseId submission).Unshown)
      (unread : submission.forCreate = .error .outOfStack) :
      Refused store (.createTry caseId submission) .outOfStack

variable {config : Config} {session : Session} {e : Error}

theorem refused_of_heldCase {tool : Tool} {caseId : Int}
    (addressed : tool.Missing session.store = (session.store.findCase caseId = none))
    (numbered : tool.Overlong = (Numeral.fits caseId = false))
    (failed : heldCase session.store caseId = .error e) : Refused session.store tool e := by
  obtain ⟨none, kind⟩ := heldCase_eq_error failed
  refine .missing (addressed ▸ none) kind fun told => ?_
  rw [numbered, Bool.not_eq_false] at told
  exact raised_of_heldCase failed told

theorem refused_of_heldTry {tool : Tool} {caseId tryNo : Int}
    (addressed : tool.Missing session.store = Unheld session.store caseId tryNo)
    (numbered : tool.Overlong = (Numeral.fits caseId = false ∨ Numeral.fits tryNo = false))
    (failed : heldTry session.store caseId tryNo = .error e) : Refused session.store tool e := by
  obtain ⟨unheld, kind⟩ := heldTry_eq_error failed
  refine .missing (addressed ▸ unheld) kind fun told => ?_
  rw [numbered, not_or, Bool.not_eq_false, Bool.not_eq_false] at told
  exact raised_of_heldTry failed told.1 told.2

theorem refused_of_forCreate {caseId : Int} {submission : Submission}
    (typed : (Tool.createTry caseId submission).WellTyped)
    (failed : submission.forCreate = .error e) :
    Refused session.store (.createTry caseId submission) e := by
  rcases typed with rfl | ⟨text, members, -, rfl⟩
  · cases failed
  · rcases Submission.forCreate_members_eq_error failed with ⟨report, faults, rfl⟩ | ⟨rfl, deep⟩
    · exact .invalid rfl rfl
    · exact .unshown deep failed

/-- With a draft whose template is allowed a try is made. -/
theorem not_failed_of_draft (roomy : Platform.Roomy) {caseId : Int} {submission : Submission}
    (draft : Draft config session.store caseId submission)
    (shallow : (Tool.createTry caseId submission).Shallow config session)
    (nameable : draft.Nameable) :
    ¬ (¬ draft.Nameable ∨ draft.blank.compile draft.vars.map none = .error e ∨ draft.Unsaved) := by
  have levels : draft.blank.Shallow draft.vars.map := fun es => shallow _ (.made draft es)
  rintro (unnameable | uncompiled | ⟨-, args, compiled, deep⟩)
  · exact unnameable nameable
  · exact levels.compile_ne_error roomy uncompiled
  · exact Nat.not_le.mpr deep (levels.fits roomy compiled)

/-- Before so many operations that its number has too many digits, a try can be named by its
number. -/
theorem nameable_of_bounded {k : Nat} (few : k + 1 < 10 ^ Numeral.digitLimit)
    (bounded : session.store.Bounded k) (kept : session.store.Integrity) {caseId : Int}
    {submission : Submission} (draft : Draft config session.store caseId submission) :
    draft.Nameable := by
  have counted : draft.owner.lastTry ≤ k :=
    (bounded.case_bounded _ (Table.mem_of_get? draft.owner_found)).2
  have positive := (kept.findCase_filed draft.owner_found).2.2
  have next : draft.tryNo = draft.owner.lastTry + 1 := rfl
  refine .inr (Numeral.fits_iff.mpr (Nat.lt_of_le_of_lt ?_ few))
  omega

/-- A call that is allowed is refused only for what is missing or invalid, or for a variable. -/
theorem refused_of_error (roomy : Platform.Roomy) (kept : session.store.Integrity)
    (fresh : session.store.Fresh) {k : Nat} (few : k + 1 < 10 ^ Numeral.digitLimit)
    (bounded : session.store.Bounded k) {tool : Tool} (answers : tool.Answers)
    (typed : tool.WellTyped) (shallow : tool.Shallow config session)
    (failed : (tool.command.run config session).1 = .error e) : Refused session.store tool e := by
  cases tool with
  | createCase name => exact answers.elim
  | previewArgs caseId tryNo phrase => exact answers.elim
  | listTries caseId =>
    rw [command, Command.run, Command.program, run_map, run_listTries] at failed
    exact refused_of_heldCase rfl rfl (map_eq_error (map_eq_error failed))
  | getTry caseId tryNo =>
    rw [command, Command.run, Command.program, run_map, run_getTry] at failed
    exact refused_of_heldTry rfl rfl (map_eq_error (map_eq_error failed))
  | createTry caseId submission =>
    rw [command, Command.run, Command.program, run_map] at failed
    rcases createTry_eq_error (map_eq_error failed) with
      read | held | ⟨fields, chosen⟩ | ⟨tag, defaulted⟩ | ⟨entries, accepted⟩ | ⟨draft, ways⟩
    · exact refused_of_forCreate typed read
    · exact refused_of_heldCase rfl rfl held
    · obtain ⟨tag, rfl⟩ := chosenEngine_eq_error chosen
      exact .invalid rfl rfl
    · cases defaultsFor_eq_error defaulted
      exact .invalid rfl rfl
    · obtain ⟨name, rfl⟩ := Variables.ofEntries_eq_error accepted
      exact .invalid rfl (Error.raised_invalidVariableName roomy.showing name)
    · have nameable := nameable_of_bounded few bounded kept draft
      exact (not_failed_of_draft roomy draft shallow nameable ways).elim
  | renameTry caseId tryNo name =>
    obtain ⟨name, rfl⟩ := typed
    rw [command, Command.run, Command.program, run_map, run_renameTry_text] at failed
    rcases nameTry_eq_error (map_eq_error failed) with held | ⟨-, t, held, deep⟩
    · exact refused_of_heldTry rfl rfl held
    · have copied := (fresh.of_findTry (findTry_of_heldTry held)).copied
      exact absurd copied (Nat.not_le.mpr deep)
  | deleteTry caseId tryNo =>
    rw [command, Command.run, Command.program, run_map, result_deleteTry] at failed
    exact refused_of_heldTry rfl rfl (map_eq_error (map_eq_error failed))
  | setCuratorVariable caseId tryNo name value =>
    obtain ⟨⟨name, rfl⟩, value, rfl⟩ := typed
    have settled := settled_set session.store caseId tryNo (.str name) (.str value)
    rw [command, Command.run_of_change config session rfl] at failed
    cases ended : tuned session.store caseId tryNo fun vars => vars.set (.str name) (.str value) with
    | ok written =>
      rw [run_changeVariables_of_tuned kept settled ended] at failed
      cases failed
    | error cause =>
      rw [run_changeVariables_eq_error kept fresh settled ended] at failed
      cases failed
      rcases tuned_eq_error ended with held | ⟨t, held, unchanged | ⟨vars, changed, rest⟩⟩
      · exact refused_of_heldTry rfl rfl held
      · cases Variables.set_eq_error unchanged
        exact .invalid rfl (Error.raised_invalidVariableName roomy.showing name)
      · have found := findTry_of_heldTry held
        have levels : t.Shallow vars.map := fun es => shallow _ (.tuned found es changed)
        rcases rest with uncompiled | ⟨-, args, compiled, deep⟩
        · exact (levels.compile_ne_error roomy uncompiled).elim
        · exact absurd (levels.fits roomy compiled) (Nat.not_le.mpr deep)

/-! ## What is raised -/

/-- What a call that is refused raises: an error of the domain, unless a number cannot be told or a
variable cannot be shown. -/
theorem Refused.raised_cases {store : Store} {tool : Tool} (refused : Refused store tool e) :
    (∃ kind, e.raised.kind? = some kind ∧ (kind = .notFound → tool.Missing store)) ∨
      (tool.Overlong ∧ tool.Missing store ∧ e.raised = .tooManyDigits) ∨
      tool.Unshown ∧ e.raised = .outOfStack := by
  cases refused with
  | missing missing kind told =>
    rcases Error.raised_of_notFound kind with same | long
    · rw [same]
      exact .inl ⟨.notFound, kind, fun _ => missing⟩
    · refine .inr (.inl ⟨Classical.byContradiction fun short => ?_, missing, long⟩)
      rw [← told short, long] at kind
      exact nomatch kind
  | invalid kind told =>
    rw [told]
    exact .inl ⟨.invalid, kind, fun same => nomatch same⟩
  | unshown unshown unread => exact .inr (.inr ⟨unshown, rfl⟩)

/-- A call that is refused changes nothing. -/
theorem Refused.unchanged {tool : Tool} (refused : Refused session.store tool e)
    (failed : (tool.command.run config session).1 = .error e) :
    (tool.command.run config session).2 = session := by
  have kindless : e.kind? ≠ none → (tool.command.run config session).2 = session := by
    intro known
    rcases failsAs_run config session tool.command e failed with same | leftover
    · exact same
    · -- What fails and leaves a trace fails with an error that is none of the domain.
      generalize (tool.command.run config session).2 = last at leftover
      generalize tool.command = command at leftover
      cases leftover <;> exact absurd rfl known
  cases refused with
  | missing missing kind told => exact kindless (by rw [kind]; nofun)
  | invalid kind told => exact kindless (by rw [kind]; nofun)
  | @unshown caseId submission unshown unread =>
    rw [command, Command.run, Command.program, run_map, Lifecycle.createTry, unread]
    rfl

/-- A call that addresses what is not there is refused for that. -/
theorem notFound_of_missing {tool : Tool} (answers : tool.Answers) (typed : tool.WellTyped)
    (other : ∀ caseId submission, tool ≠ .createTry caseId submission)
    (missing : tool.Missing session.store) :
    ∃ e, (tool.command.run config session).1 = .error e ∧ e.kind? = some .notFound := by
  cases tool with
  | createCase name => exact answers.elim
  | previewArgs caseId tryNo phrase => exact answers.elim
  | listTries caseId =>
    refine ⟨.caseNotFound caseId, ?_, rfl⟩
    rw [command, Command.run, Command.program, run_map, run_listTries,
      heldCase_of_findCase_none missing]
    rfl
  | createTry caseId submission => exact absurd rfl (other caseId submission)
  | getTry caseId tryNo =>
    obtain ⟨e, held, kind⟩ := exists_of_unheld missing
    refine ⟨e, ?_, kind⟩
    rw [command, Command.run, Command.program, run_map, run_getTry, held]
    rfl
  | renameTry caseId tryNo name =>
    obtain ⟨name, rfl⟩ := typed
    obtain ⟨e, held, kind⟩ := exists_of_unheld missing
    refine ⟨e, ?_, kind⟩
    rw [command, Command.run, Command.program, run_map, run_renameTry_text,
      run_nameTry_of_error held]
    rfl
  | deleteTry caseId tryNo =>
    obtain ⟨e, held, kind⟩ := exists_of_unheld missing
    refine ⟨e, ?_, kind⟩
    rw [command, Command.run, Command.program, run_map, result_deleteTry, held]
    rfl
  | setCuratorVariable caseId tryNo name value =>
    obtain ⟨e, held, kind⟩ := exists_of_unheld missing
    refine ⟨e, ?_, kind⟩
    rw [command, Command.run, Command.program, run_map, setVariable,
      run_changeVariables_of_error held]
    rfl

end Tool

end SearchTuning

import SearchTuning.Proofs.Store.Frame
import SearchTuning.Proofs.Store.Numbering

/-!
# Views and what is stored

The view that an operation returns is made from what it has at hand, before or after it writes.  It
is the view of what is stored then, and stays so until the try is renamed, tuned or deleted: nothing
else about a try ever changes, and no operation touches a try that it does not name.
-/

namespace SearchTuning

namespace Store

open Lifecycle

/-- The view of a try as it is stored. -/
def viewOf (caseId tryNo : Int) (store : Store) : Option View :=
  (store.findTry caseId tryNo).map fun t => t.view (store.variablesOf caseId tryNo)

theorem viewOf_of_findTry {store : Store} {caseId tryNo : Int} {t : Try}
    (found : store.findTry caseId tryNo = some t) :
    store.viewOf caseId tryNo = some (t.view (store.variablesOf caseId tryNo)) :=
  congrArg (Option.map _) found

namespace Integrity

variable {store : Store} (kept : store.Integrity)

include kept

theorem tidy_variablesOf (caseId tryNo : Int) :
    VariableMap.Tidy (store.variablesOf caseId tryNo) := by
  rw [variablesOf]
  cases found : Table.get? (caseId, tryNo) store.variableMaps with
  | none => exact VariableMap.tidy_nil
  | some vars => exact kept.variables_tidy _ (Table.mem_of_get? found)

/-- Variables that are held are changed as they are. -/
theorem ofEntries_bind (caseId tryNo : Int) (change : Variables → Except Error Variables) :
    (Variables.ofEntries (store.variablesOf caseId tryNo) >>= change) =
      change ⟨store.variablesOf caseId tryNo, 0⟩ :=
  bind_of_eq_ok (Variables.ofEntries_of_tidy (kept.tidy_variablesOf caseId tryNo)) change

theorem heldTry_of_findTry {caseId tryNo : Int} {t : Try}
    (found : store.findTry caseId tryNo = some t) : heldTry store caseId tryNo = .ok t := by
  obtain ⟨owner, owned, -⟩ := kept.try_counted _ (Table.mem_of_get? found)
  rw [(kept.findTry_filed found).1] at owned
  rw [heldTry, heldCase, owned, found]

end Integrity

theorem run_getTry_of_viewOf [Platform] (config : Config) {session : Session}
    (kept : session.store.Integrity)
    {caseId tryNo : Int} {view : View} (shown : session.store.viewOf caseId tryNo = some view) :
    (Command.getTry caseId tryNo).run config session = (.ok (.view view), session) := by
  obtain ⟨t, found, rfl⟩ := Option.map_eq_some_iff.mp shown
  rw [Command.run, Command.program, Program.run_map, run_getTry, kept.heldTry_of_findTry found]
  rfl

end Store

/-! ## Operations that return a view of what they write -/

namespace Lifecycle

variable [Platform] {config : Config} {session after : Session} {caseId tryNo : Int} {view : View}

theorem CreateOutcome.viewOf {submission : Submission}
    (outcome : CreateOutcome config session caseId submission (.ok view, after)) :
    after.store.viewOf caseId view.tryNo = some view := by
  cases outcome with
  | made draft nameable args compiled fits =>
    have found : (draft.stored args).findTry caseId draft.tryNo = some (draft.finished args) :=
      Store.findTry_putTry _ (draft.finished args)
    have vars : (draft.stored args).variablesOf caseId draft.tryNo = draft.vars.map := by
      refine (Store.variablesOf_replaceVariables draft.counted _ _ _ _ _).trans ?_
      rw [if_pos rfl]
    refine (Store.viewOf_of_findTry found).trans ?_
    rw [vars]

theorem NameOutcome.viewOf {read : Except Error (Option Text)} (kept : session.store.Integrity)
    (outcome : NameOutcome session caseId tryNo read (.ok view, after)) :
    after.store.viewOf caseId tryNo = some view := by
  cases outcome with
  | kept name given t held same => exact Store.viewOf_of_findTry (findTry_of_heldTry held)
  | named name given t held other fits =>
    obtain ⟨rfl, rfl⟩ := kept.findTry_filed (findTry_of_heldTry held)
    exact Store.viewOf_of_findTry (session.store.findTry_putTry { t with name := name.getD t.name })

/-- A change that is not counted is none. -/
theorem TuneOutcome.viewOf {change : Variables → Except Error Variables}
    (uncounted : ∀ vars after, change vars = .ok after → after.changes = 0 → after.map = vars.map)
    (kept : session.store.Integrity)
    (outcome : TuneOutcome session caseId tryNo change (.ok view, after)) :
    after.store.viewOf caseId tryNo = some view := by
  cases outcome with
  | kept t held vars changed unchanged =>
    rw [kept.ofEntries_bind] at changed
    rw [uncounted _ vars changed unchanged]
    exact Store.viewOf_of_findTry (findTry_of_heldTry held)
  | tuned t held vars changed counted args compiled fits =>
    obtain ⟨rfl, rfl⟩ := kept.findTry_filed (findTry_of_heldTry held)
    have found := (session.store.replaceVariables t.caseId t.tryNo vars.map).findTry_putTry
      { t with args }
    refine (Store.viewOf_of_findTry found).trans ?_
    have vars_eq := Store.variablesOf_replaceVariables session.store t.caseId t.tryNo vars.map
      t.caseId t.tryNo
    rw [if_pos rfl] at vars_eq
    exact congrArg (fun held => some (Try.view { t with args } held)) vars_eq

theorem run_eq_of_map_view {p : Program View}
    (ended : ((Reply.view <$> p).run session).1 = .ok (.view view)) :
    p.run session = (.ok view, ((Reply.view <$> p).run session).2) := by
  rw [Program.run_map] at ended ⊢
  generalize p.run session = ran at ended ⊢
  obtain ⟨_ | made, last⟩ := ran
  · cases ended
  · cases ended
    rfl

end Lifecycle

namespace Command

open Lifecycle

/-- The try whose view an operation returns, if it makes or changes one. -/
def subject? : Command → View → Option (Int × Int)
  | .createTry caseId _, view => some (caseId, view.tryNo)
  | .updateTry caseId tryNo _, _ | .renameTry caseId tryNo _, _ | .setVariable caseId tryNo .., _
  | .removeVariable caseId tryNo _, _ => some (caseId, tryNo)
  | _, _ => none

/-- An operation that makes or changes a try returns the view of what is then stored. -/
theorem viewOf_run [Platform] {config : Config} {session : Session} (kept : session.store.Integrity)
    {command : Command} {view : View} (ended : (command.run config session).1 = .ok (.view view))
    {caseId tryNo : Int} (subject : command.subject? view = some (caseId, tryNo)) :
    (command.run config session).2.store.viewOf caseId tryNo = some view := by
  cases command with
  | createTry c submission =>
    cases subject
    have outcome := createTry_outcome config session caseId submission
    rw [run_eq_of_map_view ended] at outcome
    exact outcome.viewOf
  | updateTry c n submission =>
    cases subject
    have outcome := updateTry_outcome session caseId tryNo submission
    rw [run_eq_of_map_view ended] at outcome
    exact outcome.viewOf kept
  | renameTry c n name =>
    cases subject
    have outcome := renameTry_outcome session caseId tryNo name
    rw [run_eq_of_map_view ended] at outcome
    exact outcome.viewOf kept
  | setVariable c n name value =>
    cases subject
    have outcome := setVariable_outcome session caseId tryNo name value
    rw [run_eq_of_map_view ended] at outcome
    refine outcome.viewOf ?_ kept
    exact fun vars after changed none => absurd none (Variables.changes_set changed)
  | removeVariable c n name =>
    cases subject
    have outcome := removeVariable_outcome session caseId tryNo name
    rw [run_eq_of_map_view ended] at outcome
    refine outcome.viewOf ?_ kept
    intro vars after changed none
    cases changed
    exact Variables.map_remove_of_changes none
  | _ => cases subject

end Command

/-! ## Views that stay -/

namespace Command

variable [Platform]

/-- None of the operations renames, tunes or deletes a try, also where one is asked to: a new name
may be the old one, and a new value the old one. -/
def Spares (config : Config) (caseId tryNo : Int) : List Command → Session → Prop
  | [], _ => True
  | command :: later, session =>
      (command.touched? = some (caseId, tryNo) →
        ((command.run config session).2.store.findTry caseId tryNo).map Try.name =
          (session.store.findTry caseId tryNo).map Try.name ∧
        (command.run config session).2.store.variablesOf caseId tryNo =
          session.store.variablesOf caseId tryNo) ∧
      Spares config caseId tryNo later (command.run config session).2

instance decidableSpares (config : Config) (caseId tryNo : Int) :
    (commands : List Command) → (session : Session) →
      Decidable (Spares config caseId tryNo commands session)
  | [], _ => inferInstanceAs (Decidable True)
  | command :: later, session =>
      have := decidableSpares config caseId tryNo later (command.run config session).2
      inferInstanceAs (Decidable ((_ = _ → _ = _ ∧ _ = _) ∧ Spares config caseId tryNo later _))

end Command

namespace Store

open Lifecycle

section

variable [Platform] {caseId tryNo : Int}

namespace Integrity

variable {store : Store} (kept : store.Integrity)

include kept

end Integrity

theorem fresh_reached (config : Config) (commands : List Command) :
    (Command.reached config commands).store.Fresh :=
  runAll_of_integrity config (motive := fun session => session.store.Fresh)
    (fun _ _ _ does kept fresh => fresh.effect does kept) commands integrity_empty fresh_empty

end

end Store

end SearchTuning

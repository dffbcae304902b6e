import SearchTuning.Proofs.Store.Retirement

/-!
# The numbers of tries

A new try takes the number after the last one that its case has given out.  So the numbers of a case
increase throughout every history, and none is given out twice, also when its try has been deleted.
-/

namespace SearchTuning

section

variable [Platform]

namespace Command

/-- The session that a history leads to from the empty store. -/
def reached (config : Config) (commands : List Command) : Session :=
  (runAll config commands Session.start).2

theorem runAll_append (config : Config) (commands later : List Command) (session : Session) :
    (runAll config (commands ++ later) session).2 =
      (runAll config later (runAll config commands session).2).2 := by
  induction commands generalizing session with
  | nil => rfl
  | cons command commands ih => exact ih _

/-- The number of the try that an operation has made in a case, if it has made one. -/
def numberMade (caseId : Int) : Command → Except Error Reply → Option Int
  | .createTry c _, .ok (.view made) => if c = caseId then some made.tryNo else none
  | _, _ => none

/-- The numbers of the tries that a history has made in a case, in the order in which they were
made. -/
def numbersMade (config : Config) (caseId : Int) (commands : List Command) (session : Session) :
    List Int :=
  (commands.zip (runAll config commands session).1).filterMap fun ran =>
    numberMade caseId ran.1 ran.2

omit [Platform] in
theorem numberMade_eq_some {caseId n : Int} {command : Command} {result : Except Error Reply}
    (made : numberMade caseId command result = some n) :
    ∃ submission view,
      command = .createTry caseId submission ∧ result = .ok (.view view) ∧ view.tryNo = n := by
  unfold numberMade at made
  split at made
  · next c submission view =>
    split at made
    · next same =>
      cases made
      exact ⟨submission, view, by rw [same], rfl, rfl⟩
    · cases made
  · cases made

theorem numbersMade_cons (config : Config) (caseId : Int) (command : Command)
    (commands : List Command) (session : Session) :
    numbersMade config caseId (command :: commands) session =
      (numberMade caseId command (command.run config session).1).toList ++
        numbersMade config caseId commands (command.run config session).2 := by
  rw [numbersMade, runAll, List.zip_cons_cons, List.filterMap_cons]
  cases numberMade caseId command (command.run config session).1 with
  | none => rfl
  | some n => rfl

end Command

namespace Store

open Lifecycle

/-- A try that is made takes the number after the last one, and is then the last one. -/
theorem counted_of_createTry {config : Config} {session : Session} {caseId : Int}
    {submission : Submission} {view : View}
    (made : ((Command.createTry caseId submission).run config session).1 = .ok (.view view)) :
    ∃ owner, session.store.findCase caseId = some owner ∧ view.tryNo = owner.lastTry + 1 ∧
      ((Command.createTry caseId submission).run config session).2.store.findCase caseId =
        some { owner with lastTry := view.tryNo } := by
  have outcome := createTry_outcome config session caseId submission
  rw [Command.run, Command.program, Program.run_map] at made ⊢
  generalize (createTry config caseId submission).run session = ended at made outcome
  cases outcome with
  | refused cause unready => cases made
  | unnamed draft unnameable => cases made
  | lost draft nameable cause failed => cases made
  | orphaned draft unsaved => cases made
  | made draft nameable args compiled fits =>
    cases made
    refine ⟨draft.owner, draft.owner_found, rfl, ?_⟩
    exact Table.get?_insert_self caseId _ session.store.cases

/-- The numbers that a history makes are greater than all that a case has given out before. -/
theorem lastTry_lt_of_mem_numbersMade (config : Config) {caseId : Int} (commands : List Command)
    {session : Session} (kept : session.store.Integrity) {owner : Case}
    (found : session.store.findCase caseId = some owner) :
    ∀ n ∈ Command.numbersMade config caseId commands session, owner.lastTry < n := by
  induction commands generalizing session owner with
  | nil => simp [Command.numbersMade]
  | cons command commands ih =>
    have does := effect_run config session command
    obtain ⟨later, there, counted⟩ := countsKept_effect does kept caseId owner found
    intro n member
    rw [Command.numbersMade_cons, List.mem_append] at member
    rcases member with here | after
    · obtain ⟨submission, view, rfl, result, rfl⟩ :=
        Command.numberMade_eq_some (Option.mem_toList.mp here)
      obtain ⟨same, owned, next, -⟩ := counted_of_createTry result
      cases found.symm.trans owned
      omega
    · have greater := ih (kept.effect does) there n after
      omega

theorem numbersMade_ascending (config : Config) (caseId : Int) (commands : List Command)
    {session : Session} (kept : session.store.Integrity) :
    (Command.numbersMade config caseId commands session).Pairwise (· < ·) := by
  induction commands generalizing session with
  | nil => exact .nil
  | cons command commands ih =>
    have kept' := kept.effect (effect_run config session command)
    rw [Command.numbersMade_cons]
    cases made : Command.numberMade caseId command (command.run config session).1 with
    | none => exact ih kept'
    | some n =>
      obtain ⟨submission, view, rfl, result, rfl⟩ := Command.numberMade_eq_some made
      obtain ⟨owner, -, -, numbered⟩ := counted_of_createTry result
      refine List.pairwise_cons.mpr ⟨?_, ih kept'⟩
      exact lastTry_lt_of_mem_numbersMade config commands kept' numbered

/-! ## Histories -/

theorem integrity_reached (config : Config) (commands : List Command) :
    (Command.reached config commands).store.Integrity :=
  integrity_empty.runAll config commands

theorem reached_append (config : Config) (commands later : List Command) :
    Command.reached config (commands ++ later) =
      (Command.runAll config later (Command.reached config commands)).2 :=
  Command.runAll_append config commands later Session.start

/-- What holds in a session with integrity and is preserved by every effect holds in all that
follows. -/
theorem runAll_of_integrity {motive : Session → Prop} (config : Config)
    (step : ∀ command before after, Effect config before command after → before.store.Integrity →
      motive before → motive after)
    (commands : List Command) {session : Session} (kept : session.store.Integrity)
    (start : motive session) : motive (Command.runAll config commands session).2 :=
  (runAll_induction (motive := fun session => session.store.Integrity ∧ motive session) config
    (fun command before after does holds =>
      ⟨holds.1.effect does, step command before after does holds.1 holds.2⟩)
    commands ⟨kept, start⟩).2

theorem countsKept_reached (config : Config) (commands later : List Command) :
    CountsKept (Command.reached config commands).store
      (Command.reached config (commands ++ later)).store := by
  rw [reached_append]
  refine runAll_of_integrity config (motive := fun session =>
    CountsKept (Command.reached config commands).store session.store) ?_ later
    (integrity_reached config commands) (.of_cases_eq rfl)
  intro command before after does kept soFar
  exact soFar.trans (countsKept_effect does kept)

/-- A try that has been deleted is not there at any later point. -/
theorem retired_reached (config : Config) (commands later : List Command) {caseId tryNo : Int}
    (deleted : ((Command.deleteTry caseId tryNo).run config (Command.reached config commands)).1 =
      .ok .deleted) :
    (Command.reached config (commands ++ .deleteTry caseId tryNo :: later)).store.Retired caseId
      tryNo := by
  have kept := integrity_reached config commands
  have outcome := deleteTry_outcome (Command.reached config commands) caseId tryNo
  rw [reached_append]
  change ((Command.runAll config later
    ((Command.deleteTry caseId tryNo).run config (Command.reached config commands)).2).2).store.Retired
      caseId tryNo
  have does := effect_run config (Command.reached config commands) (.deleteTry caseId tryNo)
  refine runAll_of_integrity config
    (motive := fun session => session.store.Retired caseId tryNo)
    (fun command before after does kept retired => retired.effect does kept) later (kept.effect does) ?_
  rw [Command.run, Command.program, Program.run_map] at deleted ⊢
  generalize (Lifecycle.deleteTry caseId tryNo).run (Command.reached config commands) = ended
    at deleted outcome
  cases outcome with
  | refused cause => cases deleted
  | deleted owner found there => exact retired_deleteTry kept there

theorem run_deleteTry_cases (config : Config) (session : Session) (caseId tryNo : Int) :
    ((Command.deleteTry caseId tryNo).run config session).2.store.cases = session.store.cases := by
  have outcome := deleteTry_outcome session caseId tryNo
  rw [Command.run, Command.program, Program.run_map]
  generalize (Lifecycle.deleteTry caseId tryNo).run session = ended at outcome
  cases outcome with
  | refused cause => rfl
  | deleted owner found there => exact deleteTry_cases _ _ _

/-- Throughout every history from the empty store, whatever its operations and however they end: the
numbers of the tries that are made in a case increase, each is the one after the last that the case
had counted, and no count goes back, also when a try is deleted.  A try that has been deleted is not
there at any later point, for any operation that looks for it. -/
theorem runAll_numbers_never_reused (config : Config) (caseId : Int) :
    (∀ commands,
      (Command.numbersMade config caseId commands Session.start).Pairwise (· < ·)) ∧
    (∀ commands submission view,
      ((Command.createTry caseId submission).run config (Command.reached config commands)).1 =
        .ok (.view view) →
      ∃ owner, (Command.reached config commands).store.findCase caseId = some owner ∧
        view.tryNo = owner.lastTry + 1) ∧
    (∀ commands later, CountsKept (Command.reached config commands).store
      (Command.reached config (commands ++ later)).store) ∧
    (∀ commands tryNo,
      ((Command.deleteTry caseId tryNo).run config (Command.reached config commands)).2.store.cases =
        (Command.reached config commands).store.cases) ∧
    (∀ commands tryNo later,
      ((Command.deleteTry caseId tryNo).run config (Command.reached config commands)).1 =
        .ok .deleted →
      Absent config (Command.reached config (commands ++ .deleteTry caseId tryNo :: later)) caseId
        tryNo) := by
  refine ⟨?_, ?_, ?_, ?_, ?_⟩
  · intro commands
    exact numbersMade_ascending config caseId commands integrity_empty
  · intro commands submission view made
    obtain ⟨owner, found, next, -⟩ := counted_of_createTry made
    exact ⟨owner, found, next⟩
  · exact countsKept_reached config
  · intro commands tryNo
    exact run_deleteTry_cases config _ caseId tryNo
  · intro commands tryNo later deleted
    exact absent_of_retired config (integrity_reached config _)
      (retired_reached config commands later deleted)

end Store

end

namespace Store

open Lifecycle

/-- Between the deletion of a try and the look for it another one is made, tuned and renamed. -/
theorem runAll_numbers_never_reused_deleted :
    letI := Platform.usual
    let commands : List Command :=
      [.createCase (.str (Text.ofString "a")), .createTry 1 .absent, .createTry 1 .absent]
    let later : List Command :=
      [.createTry 1 .absent, .renameTry 1 2 (.str (Text.ofString "b")),
        .setVariable 1 3 (.str (Text.ofString "who")) (.str (Text.ofString "y"))]
    Command.numbersMade Config.standard 1 (commands ++ .deleteTry 1 2 :: later) Session.start =
      [1, 2, 3] ∧
    ((Command.deleteTry 1 2).run Config.standard (Command.reached Config.standard commands)).1 =
      .ok .deleted ∧
    Absent Config.standard
      (Command.reached Config.standard (commands ++ .deleteTry 1 2 :: later)) 1 2 :=
  have deleted : _ = _ := by decide +kernel
  ⟨by decide +kernel, deleted,
    (@runAll_numbers_never_reused Platform.usual _ _).2.2.2.2 _ _ _ deleted⟩

/-- The new name of a try is read before the try is looked for.  One that is a number is refused as
such, also where the try has been deleted. -/
theorem updateTry_deleted_name_not_text :
    letI := Platform.usual
    let commands : List Command :=
      [.createCase (.str (Text.ofString "a")), .createTry 1 .absent]
    let update : Command :=
      .updateTry 1 1 (.unread (.obj [(Text.ofString "name", .int 5)]))
    let deleted := Command.reached Config.standard (commands ++ [.deleteTry 1 1])
    ((Command.deleteTry 1 1).run Config.standard (Command.reached Config.standard commands)).1 =
      .ok .deleted ∧
    (update.run Config.standard deleted).1 = .error (.nameNotText (.int 5)) ∧
    (update.run Config.standard deleted).1 ≠ .error (.tryNotFound 1 1) := by
  decide +kernel

end Store

end SearchTuning

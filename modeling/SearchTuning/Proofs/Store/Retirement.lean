import SearchTuning.Proofs.Store.Listing

/-!
# Numbers whose try is gone

A case counts its tries upwards and never back.  A number that it has given out and whose try has
been deleted stays without a try: whatever saves a try saves it under a number that has one, or
under a new one.  So every operation on such a number answers that there is no try.
-/

namespace SearchTuning

namespace Store

open Lifecycle

/-! ## Counts -/

/-- No case of the one store is missing in the other, or has counted less there. -/
def CountsKept (before after : Store) : Prop :=
  ∀ caseId owner, before.findCase caseId = some owner →
    ∃ later, after.findCase caseId = some later ∧ owner.lastTry ≤ later.lastTry

theorem CountsKept.of_cases_eq {before after : Store} (same : after.cases = before.cases) :
    CountsKept before after := by
  intro caseId owner found
  refine ⟨owner, ?_, Int.le_refl _⟩
  rw [findCase, same]
  exact found

theorem CountsKept.trans {first second third : Store} (early : CountsKept first second)
    (late : CountsKept second third) : CountsKept first third := by
  intro caseId owner found
  obtain ⟨later, there, counted⟩ := early caseId owner found
  obtain ⟨last, still, more⟩ := late caseId later there
  exact ⟨last, still, Int.le_trans counted more⟩

/-- A new case has a number that no case had. -/
theorem countsKept_createCase {store : Store} (kept : store.Integrity) (name : Text) :
    CountsKept store (store.createCase name).2 := by
  intro caseId owner found
  have older : store.nextCaseId ≠ caseId := by
    have given := (kept.findCase_filed found).2.1
    omega
  exact ⟨owner, (Table.get?_insert_of_ne older _ _).trans found, Int.le_refl _⟩

theorem countsKept_counted [Platform] {config : Config} {store : Store} {caseId : Int}
    {submission : Submission} (draft : Draft config store caseId submission) :
    CountsKept store draft.counted := by
  intro c owner found
  by_cases same : caseId = c
  · subst same
    have owned := draft.owner_found
    rw [found] at owned
    cases owned
    have counted : draft.counted.findCase caseId =
        some { draft.owner with lastTry := draft.tryNo } :=
      Table.get?_insert_self caseId _ store.cases
    exact ⟨_, counted, Int.le_add_of_nonneg_right (by decide)⟩
  · exact ⟨owner, (Table.get?_insert_of_ne same _ _).trans found, Int.le_refl _⟩

/-- Whatever an operation does, no count goes back. -/
theorem countsKept_effect [Platform] {config : Config} {command : Command} {before after : Session}
    (does : Effect config before command after) (kept : before.store.Integrity) :
    CountsKept before.store after.store := by
  cases does with
  | nothing => exact .of_cases_eq rfl
  | caseMade name => exact countsKept_createCase kept name
  | numberLost draft => exact countsKept_counted draft
  | tryLost draft unsaved => exact (countsKept_counted draft).trans (.of_cases_eq rfl)
  | tryMade draft args compiled fits pending =>
    exact (countsKept_counted draft).trans (.of_cases_eq rfl)
  | tryNamed => exact .of_cases_eq rfl
  | tryDeleted caseId tryNo => exact .of_cases_eq (deleteTry_cases _ _ _)
  | tryTuned => exact .of_cases_eq rfl
  | tryStale => exact .of_cases_eq rfl

/-! ## Numbers without a try -/

/-- A number that its case has given out, and that has no try any more. -/
structure Retired (store : Store) (caseId tryNo : Int) : Prop where
  counted : ∃ owner, store.findCase caseId = some owner ∧ tryNo ≤ owner.lastTry
  gone : store.findTry caseId tryNo = none

namespace Retired

variable {store : Store} {caseId tryNo : Int}

theorem of_countsKept {after : Store} (retired : store.Retired caseId tryNo)
    (kept : CountsKept store after) (gone : after.findTry caseId tryNo = none) :
    after.Retired caseId tryNo := by
  obtain ⟨owner, found, counted⟩ := retired.counted
  obtain ⟨later, there, more⟩ := kept caseId owner found
  exact ⟨⟨later, there, Int.le_trans counted more⟩, gone⟩

/-- A try that is there does not stand under the number. -/
theorem ne_of_findTry (retired : store.Retired caseId tryNo) {c n : Int} {t : Try}
    (found : store.findTry c n = some t) : (c, n) ≠ (caseId, tryNo) := by
  intro same
  cases same
  rw [retired.gone] at found
  cases found

/-- The number of a new try is greater than all that its case has given out. -/
theorem ne_of_draft [Platform] (retired : store.Retired caseId tryNo) {config : Config} {c : Int}
    {submission : Submission} (draft : Draft config store c submission) :
    (c, draft.tryNo) ≠ (caseId, tryNo) := by
  intro same
  obtain ⟨rfl, numbered⟩ := Prod.mk.inj same
  obtain ⟨owner, found, counted⟩ := retired.counted
  have owned := draft.owner_found
  rw [found] at owned
  cases owned
  rw [Draft.tryNo] at numbered
  omega

/-- Saving a try under another number leaves the number without one. -/
theorem findTry_putTry_of_ne (retired : store.Retired caseId tryNo) {t : Try}
    (other : (t.caseId, t.tryNo) ≠ (caseId, tryNo)) :
    (store.putTry t).findTry caseId tryNo = none :=
  (Table.get?_insert_of_ne other _ _).trans retired.gone

theorem findTry_deleteTry (retired : store.Retired caseId tryNo) (c n : Int) :
    (store.deleteTry c n).2.findTry caseId tryNo = none := by
  rw [Store.findTry_deleteTry, retired.gone, ite_self]

/-- No operation brings a try back. -/
theorem effect [Platform] {config : Config} {command : Command} {before after : Session}
    (does : Effect config before command after) (kept : before.store.Integrity)
    (retired : before.store.Retired caseId tryNo) :
    after.store.Retired caseId tryNo := by
  apply retired.of_countsKept (countsKept_effect does kept)
  cases does with
  | nothing => exact retired.gone
  | caseMade name => exact retired.gone
  | numberLost draft => exact retired.gone
  | tryLost draft unsaved => exact retired.gone
  | tryMade draft args compiled fits pending =>
    exact (Table.get?_insert_of_ne (retired.ne_of_draft draft) _ _).trans retired.gone
  | tryNamed _ found name =>
    obtain ⟨rfl, rfl⟩ := kept.findTry_filed found
    exact retired.findTry_putTry_of_ne (retired.ne_of_findTry found)
  | tryDeleted c n => exact retired.findTry_deleteTry c n
  | tryTuned _ found tidy compiled fits =>
    obtain ⟨rfl, rfl⟩ := kept.findTry_filed found
    exact (Table.get?_insert_of_ne (retired.ne_of_findTry found) _ _).trans retired.gone
  | tryStale => exact retired.gone

end Retired

/-- A try that is deleted leaves its number without one. -/
theorem retired_deleteTry {store : Store} (kept : store.Integrity) {caseId tryNo : Int}
    (there : Table.has (caseId, tryNo) store.tries = true) :
    (store.deleteTry caseId tryNo).2.Retired caseId tryNo := by
  obtain ⟨t, found⟩ := Option.isSome_iff_exists.mp there
  obtain ⟨owner, owned, -, counted⟩ := kept.counted_of_findTry found
  have gone : (store.deleteTry caseId tryNo).2.findTry caseId tryNo = none := by
    rw [findTry_deleteTry, if_pos rfl]
  refine ⟨⟨owner, ?_, counted⟩, gone⟩
  rw [findCase, deleteTry_cases]
  exact owned

end Store

namespace Lifecycle

open Program

/-! ## Operations on such a number -/

/-- The operations that look for a try.  One that gives a new name does so only once it has read
it. -/
inductive Seeks (caseId tryNo : Int) : Command → Prop where
  | getTry : Seeks caseId tryNo (.getTry caseId tryNo)
  | updateTry (submission : Submission) (name : Option Text)
      (read : submission.newName = .ok name) : Seeks caseId tryNo (.updateTry caseId tryNo submission)
  | renameTry (name : Text) : Seeks caseId tryNo (.renameTry caseId tryNo (.str name))
  | keepName : Seeks caseId tryNo (.renameTry caseId tryNo .null)
  | deleteTry : Seeks caseId tryNo (.deleteTry caseId tryNo)
  | setVariable (name value : Json) : Seeks caseId tryNo (.setVariable caseId tryNo name value)
  | removeVariable (name : Text) : Seeks caseId tryNo (.removeVariable caseId tryNo name)
  | previewArgs (phrase : Option Text) : Seeks caseId tryNo (.previewArgs caseId tryNo phrase)
  | preview (phrase : Option Text) : Seeks caseId tryNo (.preview caseId tryNo phrase)
  | buildRequest (phrase : Option Text) : Seeks caseId tryNo (.buildRequest caseId tryNo phrase)

variable [Platform]

/-- What a new name is refused with that is neither a text nor `null`. -/
def nameRefused (given : Json) : Error :=
  let faults : List FieldError := [⟨[Text.ofString "name"], .notText⟩]
  .invalidRecord
    (Platform.report (Text.ofString "TryFields") (.obj [(Text.ofString "name", given)]) faults) faults

/-- The number has no try for any operation.  A new name that cannot be read is refused before the
try is looked for, and then too nothing is changed. -/
structure Absent (config : Config) (session : Session) (caseId tryNo : Int) : Prop where
  sought : ∀ command, Seeks caseId tryNo command →
    command.run config session = (.error (.tryNotFound caseId tryNo), session)
  update_refused : ∀ submission e, submission.newName = .error e →
    (Command.updateTry caseId tryNo submission).run config session = (.error e, session)
  rename_refused : ∀ given, given ≠ .null → (∀ name, given ≠ .str name) →
    (Command.renameTry caseId tryNo given).run config session =
      (.error (nameRefused given), session)
  unlisted : ∃ views,
    (Command.listTries caseId).run config session = (.ok (.views views), session) ∧
    ∀ view ∈ views, view.tryNo ≠ tryNo

theorem nameOfJson_of_not_text {given : Json} (other : given ≠ .null)
    (not_text : ∀ name, given ≠ .str name) :
    nameOfJson given = .error (nameRefused given) := by
  cases given with
  | scalar s =>
    cases s with
    | null => exact absurd rfl other
    | _ => rfl
  | str name => exact absurd rfl (not_text name)
  | arr items => rfl
  | obj members => rfl

section

variable {session : Session} {caseId tryNo : Int} {e : Error}

/-- Whether the try is looked for is decided by the name. -/
theorem run_renameTry_of_error (held : heldTry session.store caseId tryNo = .error e)
    (given : Json) :
    (renameTry caseId tryNo given).run session =
      ((nameOfJson given).bind fun _ => .error e, session) := by
  rw [renameTry, nameOfJson]
  cases (TryFields.ofMembers [(Text.ofString "name", given)]).toExcept.mapError
    (Error.ofFaults .invalidRecord "TryFields" (.obj [(Text.ofString "name", given)])) with
  | error cause => rfl
  | ok fields => exact run_nameTry_of_error held fields.name

theorem liveArgs_of_error (held : heldTry session.store caseId tryNo = .error e)
    (phrase : Option Text) : liveArgs session.store caseId tryNo phrase = .error e := by
  rw [liveArgs, held]
  rfl

end

section

variable {session : Session} {caseId tryNo : Int}

omit [Platform] in
theorem heldTry_of_retired (retired : session.store.Retired caseId tryNo) :
    heldTry session.store caseId tryNo = .error (.tryNotFound caseId tryNo) := by
  obtain ⟨owner, owned, -⟩ := retired.counted
  rw [heldTry, heldCase, owned, retired.gone]

theorem run_deleteTry_of_retired (retired : session.store.Retired caseId tryNo) :
    (deleteTry caseId tryNo).run session = (.error (.tryNotFound caseId tryNo), session) := by
  obtain ⟨owner, owned, -⟩ := retired.counted
  have none : Table.has (caseId, tryNo) session.store.tries = false := by
    rw [Table.has, ← Store.findTry, retired.gone]
    rfl
  have unchanged : session.store.deleteTry caseId tryNo = (false, session.store) := by
    rw [Store.deleteTry, none]
    rfl
  rw [deleteTry, run_requireCase_bind, heldCase, owned, run_ok_bind, run_deleteTry_bind, unchanged]
  rfl

theorem run_of_retired (config : Config) (retired : session.store.Retired caseId tryNo)
    {command : Command} (seeks : Seeks caseId tryNo command) :
    command.run config session = (.error (.tryNotFound caseId tryNo), session) := by
  have held := heldTry_of_retired retired
  rw [Command.run]
  cases seeks with
  | getTry =>
    rw [Command.program, run_map, run_getTry, held]
    rfl
  | updateTry submission name read =>
    rw [Command.program, run_map, updateTry, read, run_ok_bind, run_nameTry_of_error held]
    rfl
  | renameTry name =>
    rw [Command.program, run_map, run_renameTry_of_error held]
    rfl
  | keepName =>
    rw [Command.program, run_map, run_renameTry_of_error held]
    rfl
  | deleteTry =>
    rw [Command.program, run_map, run_deleteTry_of_retired retired]
    rfl
  | setVariable name value =>
    rw [Command.program, run_map, setVariable, run_changeVariables_of_error held]
    rfl
  | removeVariable name =>
    rw [Command.program, run_map, removeVariable, run_changeVariables_of_error held]
    rfl
  | previewArgs phrase =>
    rw [Command.program, run_map, run_previewArgs, liveArgs_of_error held]
    rfl
  | preview phrase =>
    rw [Command.program, run_map, run_preview, liveArgs_of_error held]
    rfl
  | buildRequest phrase =>
    rw [Command.program, run_map, run_buildRequest, run_preview, liveArgs_of_error held]
    rfl

end

/-- A number whose try is gone has none for any operation. -/
theorem absent_of_retired (config : Config) {session : Session} {caseId tryNo : Int}
    (kept : session.store.Integrity) (retired : session.store.Retired caseId tryNo) :
    Absent config session caseId tryNo where
  sought := fun _ seeks => run_of_retired config retired seeks
  update_refused := by
    intro submission e read
    rw [Command.run, Command.program, run_map, updateTry, read]
    rfl
  rename_refused := by
    intro given other not_text
    rw [Command.run, Command.program, run_map, run_renameTry_of_error (heldTry_of_retired retired),
      nameOfJson_of_not_text other not_text]
    rfl
  unlisted := by
    obtain ⟨owner, owned, -⟩ := retired.counted
    refine ⟨(session.store.triesOf caseId).map fun t =>
      t.view (session.store.variablesOf caseId t.tryNo), ?_, ?_⟩
    · rw [Command.run, Command.program, run_map, run_listTries, heldCase, owned]
      rfl
    · intro view listed same
      obtain ⟨t, member, rfl⟩ := List.mem_map.mp listed
      have number : t.tryNo = tryNo := same
      have found := kept.keyed.mem_triesOf.mp member
      rw [number, retired.gone] at found
      cases found

end Lifecycle

end SearchTuning

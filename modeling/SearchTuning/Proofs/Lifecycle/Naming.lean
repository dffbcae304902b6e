import SearchTuning.Proofs.Store.Views

/-!
# Changing a try

A change of a try reads one entry of what is handed over, the name, and writes one field of what is
stored, the name.  Whatever else is handed over makes no difference, and whatever else is stored
stays.
-/

namespace SearchTuning

/-! ## The name that is handed over -/

/-- The key under which a name is handed over. -/
def nameKey : Text := Text.ofString "name"

namespace Submission

/-- The name that a submission gives to a try, if it gives one. -/
inductive Names : Submission → Option Text → Prop where
  | nothing : Names .absent none
  | nothing_read : Names (.unread .null) none
  | checked (fields : TryFields) : Names (.checked fields) fields.name
  | absent {members : Record.Members} (missing : Table.get? nameKey members = none) :
      Names (.unread (.obj members)) none
  | null {members : Record.Members} (found : Table.get? nameKey members = some .null) :
      Names (.unread (.obj members)) none
  | text {members : Record.Members} {name : Text}
      (found : Table.get? nameKey members = some (.str name)) :
      Names (.unread (.obj members)) (some name)

/-- The members have a name that is neither a text nor `null`. -/
def Misnames (members : Record.Members) (v : Json) : Prop :=
  Table.get? nameKey members = some v ∧ v ≠ .null ∧ ∀ name, v ≠ .str name

theorem newName_of_names {submission : Submission} {name : Option Text}
    (names : submission.Names name) : submission.newName = .ok name := by
  cases names with
  | nothing => rfl
  | nothing_read => rfl
  | checked fields => rfl
  | absent missing =>
    rw [nameKey] at missing
    simp only [newName, missing]
  | null found =>
    rw [nameKey] at found
    simp only [newName, found]
  | text found =>
    rw [nameKey] at found
    simp only [newName, found]

theorem newName_of_misnames {members : Record.Members} {v : Json} (misnames : Misnames members v) :
    (Submission.unread (.obj members)).newName = .error (.nameNotText v) := by
  obtain ⟨found, other, not_text⟩ := misnames
  rw [nameKey] at found
  simp only [newName, found]

/-- Whatever is taken as a name has been given as one. -/
theorem names_of_newName {submission : Submission} {name : Option Text}
    (read : submission.newName = .ok name) : submission.Names name := by
  unfold newName at read
  split at read
  · cases read
    exact .nothing
  · cases read
    exact .nothing_read
  · cases read
    exact .checked _
  · split at read
    · next missing =>
      cases read
      exact .absent missing
    · next found =>
      cases read
      exact .null found
    · next found =>
      cases read
      exact .text found
    · cases read
  · cases read

/-- A mapping gives a name, or none, or one that is refused. -/
theorem names_or_misnames (members : Record.Members) :
    (∃ name, (Submission.unread (.obj members)).Names name) ∨ ∃ v, Misnames members v := by
  cases found : Table.get? nameKey members with
  | none => exact .inl ⟨none, .absent found⟩
  | some v =>
    by_cases null : v = .null
    · rw [null] at found
      exact .inl ⟨none, .null found⟩
    by_cases text : ∃ name, v = .str name
    · obtain ⟨name, rfl⟩ := text
      exact .inl ⟨some name, .text found⟩
    · exact .inr ⟨v, found, null, fun name same => text ⟨name, same⟩⟩

end Submission

/-- The error says that the fields handed over cannot be taken. -/
def Error.RefusesFields : Error → Prop
  | .invalidFields .. | .nameNotText _ => True
  | _ => False

theorem Error.kind?_of_refusesFields {e : Error} (refuses : e.RefusesFields) :
    e.kind? = some .invalid := by
  cases e with
  | invalidFields report faults => rfl
  | nameNotText name => rfl
  | _ => exact refuses.elim

/-- The store with another name of one try, and nothing else changed. -/
def Store.renamed (caseId tryNo : Int) (name : Text) (store : Store) : Store :=
  { store with
    tries := Table.modify (caseId, tryNo) (fun t => { t with name }) store.tries }

namespace Lifecycle

open Program Store Submission

section

variable [Platform] {config : Config} {session : Session} {caseId tryNo : Int} {submission : Submission}

omit [Platform] in
theorem putTry_self {store : Store} (kept : store.Integrity) {t : Try}
    (found : store.findTry caseId tryNo = some t) : store.putTry t = store := by
  obtain ⟨rfl, rfl⟩ := kept.findTry_filed found
  rw [putTry, Table.insert_of_get? found]

omit [Platform] in
theorem putTry_name {store : Store} (kept : store.Integrity) {t : Try}
    (found : store.findTry caseId tryNo = some t) (name : Text) :
    store.putTry { t with name } = store.renamed caseId tryNo name := by
  obtain ⟨rfl, rfl⟩ := kept.findTry_filed found
  have tries_eq := Table.insert_eq_modify kept.tries_distinct found fun t => { t with name }
  exact congrArg (fun tries => { store with tries }) tries_eq

/-- Naming a try that is there writes it with its name, also where that is the one it has. -/
theorem run_nameTry (kept : session.store.Integrity) {t : Try}
    (found : session.store.findTry caseId tryNo = some t)
    (copied : t.args.levels ≤ Platform.copying) (name : Option Text) :
    (nameTry caseId tryNo name).run session =
      (.ok ({ t with name := name.getD t.name }.view (session.store.variablesOf caseId tryNo)),
        { session with store := session.store.putTry { t with name := name.getD t.name } }) := by
  have held := kept.heldTry_of_findTry found
  by_cases same : name.getD t.name = t.name
  · have unchanged : { t with name := name.getD t.name } = t := by rw [same]
    rw [run_nameTry_of_same held same, unchanged, putTry_self kept found]
  · exact run_nameTry_of_fits held same copied

/-! ## Updates -/

/-- The program of an update depends on what is handed over only through the name. -/
theorem program_updateTry (config : Config) (caseId tryNo : Int) (submission : Submission) :
    (Command.updateTry caseId tryNo submission).program config =
      .view <$> (Program.ofExcept submission.newName >>= nameTry caseId tryNo) := rfl

/-- A name that is given is written, and nothing else. -/
theorem run_updateTry_of_some (config : Config) (kept : session.store.Integrity) {t : Try}
    (found : session.store.findTry caseId tryNo = some t)
    (copied : t.args.levels ≤ Platform.copying) {name : Text} (names : submission.Names (some name)) :
    (Command.updateTry caseId tryNo submission).run config session =
      (.ok (.view ({ t with name }.view (session.store.variablesOf caseId tryNo))),
        { session with store := session.store.renamed caseId tryNo name }) := by
  have named := run_nameTry kept found copied (some name)
  rw [Option.getD_some, putTry_name kept found] at named
  rw [Command.run, program_updateTry, newName_of_names names, run_map, run_ok_bind, named]
  rfl

/-- Where no name is given, nothing is written. -/
theorem run_updateTry_of_none (config : Config) (kept : session.store.Integrity) {t : Try}
    (found : session.store.findTry caseId tryNo = some t)
    (copied : t.args.levels ≤ Platform.copying) (names : submission.Names none) :
    (Command.updateTry caseId tryNo submission).run config session =
      (.ok (.view (t.view (session.store.variablesOf caseId tryNo))), session) := by
  have named := run_nameTry kept found copied none
  rw [Option.getD_none, putTry_self kept found] at named
  rw [Command.run, program_updateTry, newName_of_names names, run_map, run_ok_bind, named]
  rfl

/-- A name that is neither a text nor `null` is refused before anything is looked for. -/
theorem program_updateTry_of_misnames (config : Config) (caseId tryNo : Int)
    {members : Record.Members} {v : Json} (misnames : Misnames members v) :
    (Command.updateTry caseId tryNo (.unread (.obj members))).program config =
      .done (.error (.nameNotText v)) := by
  rw [program_updateTry, newName_of_misnames misnames]
  rfl

/-- Where a name is given or none, the try can be missing, or have too many levels to be saved. -/
theorem not_refusesFields_of_names (config : Config) {name : Option Text}
    (names : submission.Names name) {e : Error}
    (failed : ((Command.updateTry caseId tryNo submission).run config session).1 = .error e) :
    ¬ e.RefusesFields := by
  rw [Command.run, program_updateTry, newName_of_names names, run_map, run_ok_bind] at failed
  intro refuses
  rcases nameTry_eq_error (map_eq_error failed) with held | ⟨rfl, -⟩
  · cases (heldTry_eq_error held).2.symm.trans (Error.kind?_of_refusesFields refuses)
  · exact refuses

/-- The session after a try has been given a name, or none. -/
def afterNaming (caseId tryNo : Int) (name : Option Text) (session : Session) : Session :=
  match name with
  | none => session
  | some name => { session with store := session.store.renamed caseId tryNo name }

theorem run_updateTry_of_names (config : Config) (kept : session.store.Integrity) {t : Try}
    (found : session.store.findTry caseId tryNo = some t)
    (copied : t.args.levels ≤ Platform.copying) {name : Option Text}
    (names : submission.Names name) :
    (Command.updateTry caseId tryNo submission).run config session =
      (.ok (.view ({ t with name := name.getD t.name }.view
        (session.store.variablesOf caseId tryNo))), afterNaming caseId tryNo name session) := by
  cases name with
  | none => exact run_updateTry_of_none config kept found copied names
  | some name => exact run_updateTry_of_some config kept found copied names

/-- A mapping is refused as such just when its name is neither a text nor `null`. -/
theorem refusesFields_iff (config : Config) (session : Session) (caseId tryNo : Int)
    (members : Record.Members) :
    (∃ e, ((Command.updateTry caseId tryNo (.unread (.obj members))).run config session).1 =
      .error e ∧ e.RefusesFields) ↔ ∃ v, Misnames members v := by
  constructor
  · rintro ⟨e, failed, refuses⟩
    rcases names_or_misnames members with ⟨name, names⟩ | misnames
    · exact absurd refuses (not_refusesFields_of_names config names failed)
    · exact misnames
  · rintro ⟨v, misnames⟩
    refine ⟨.nameNotText v, ?_, trivial⟩
    rw [Command.run, program_updateTry_of_misnames config caseId tryNo misnames]
    rfl

/-- After every history, a change of a try that is there changes its name or nothing: the try has
the name that was handed over, if one was, and everything else in the store is as it was.  Of a
mapping just the entry of the name makes a difference, and it is refused, before anything is looked
for, just when that entry is neither a text nor `null`. -/
theorem updateTry_changes_only_the_name (config : Config) (commands : List Command)
    (caseId tryNo : Int) :
    let session := Command.reached config commands
    (∀ t submission, session.store.findTry caseId tryNo = some t →
      (∀ reply, ((Command.updateTry caseId tryNo submission).run config session).1 = .ok reply →
        ∃ name, submission.Names name) ∧
      ∀ name, submission.Names name →
        (Command.updateTry caseId tryNo submission).run config session =
          (.ok (.view ({ t with name := name.getD t.name }.view
            (session.store.variablesOf caseId tryNo))), afterNaming caseId tryNo name session)) ∧
    (∀ (one two : Record.Members) (any : Session), Table.get? nameKey one = Table.get? nameKey two →
      (Command.updateTry caseId tryNo (.unread (.obj one))).run config any =
        (Command.updateTry caseId tryNo (.unread (.obj two))).run config any) ∧
    ∀ members : Record.Members,
      ((∃ e, ((Command.updateTry caseId tryNo (.unread (.obj members))).run config session).1 =
        .error e ∧ e.RefusesFields) ↔ ∃ v, Misnames members v) ∧
      ∀ v, Misnames members v →
        (Command.updateTry caseId tryNo (.unread (.obj members))).program config =
          .done (.error (.nameNotText v)) := by
  intro session
  have kept : session.store.Integrity := integrity_reached config commands
  have fresh : session.store.Fresh := fresh_reached config commands
  refine ⟨?_, ?_, ?_⟩
  · intro t submission found
    have copied := (fresh.of_findTry found).copied
    refine ⟨?_, fun name names => run_updateTry_of_names config kept found copied names⟩
    intro reply done
    cases read : submission.newName with
    | error e =>
      rw [Command.run, program_updateTry, read] at done
      cases done
    | ok name => exact ⟨name, names_of_newName read⟩
  · intro one two any same
    have alike : (Submission.unread (.obj one)).newName = (Submission.unread (.obj two)).newName := by
      rw [nameKey] at same
      simp only [Submission.newName, same]
    rw [Command.run, Command.run, program_updateTry, program_updateTry, alike]
  · intro members
    exact ⟨refusesFields_iff config session caseId tryNo members, fun v misnames =>
      program_updateTry_of_misnames config caseId tryNo misnames⟩

end

/-- An empty name is a name, and keys that would be refused elsewhere are passed over. -/
theorem updateTry_changes_only_the_name_empty :
    letI := Platform.usual
    let session := Command.reached Config.standard
      [.createCase (.str (Text.ofString "a")), .createTry 1 .absent]
    let submission : Submission := .unread (.obj
      [(Text.ofString "numberOfRows", .str (Text.ofString "many")), (nameKey, .str [])])
    ((Command.updateTry 1 1 submission).run Config.standard session).2 =
      { session with store := session.store.renamed 1 1 [] } := by
  let _ := Platform.usual
  intro session submission
  obtain ⟨t, found⟩ : ∃ t, session.store.findTry 1 1 = some t :=
    Option.isSome_iff_exists.mp (by decide +kernel)
  have changed := ((updateTry_changes_only_the_name Config.standard _ 1 1).1 t submission found).2
    (some []) (.text (by decide))
  rw [changed]
  rfl

end Lifecycle

end SearchTuning

import SearchTuning.Lifecycle
import SearchTuning.Proofs.Program

/-!
# What the operations come to

Each operation, run from start to end, told by the tables it finds: its result, and the session it
leaves behind.  An operation that only reads is told by an equation, one that writes by the ways in
which it can end.
-/

namespace SearchTuning.Lifecycle

open Program

/-! ## Cases and tries that must exist -/

/-- The case with a number, or that there is none. -/
def heldCase (store : Store) (caseId : Int) : Except Error Case :=
  match store.findCase caseId with
  | some found => .ok found
  | none => .error (.caseNotFound caseId)

/-- The try with a number, or that it or its case does not exist. -/
def heldTry (store : Store) (caseId tryNo : Int) : Except Error Try :=
  match heldCase store caseId, store.findTry caseId tryNo with
  | .error e, _ => .error e
  | .ok _, some t => .ok t
  | .ok _, none => .error (.tryNotFound caseId tryNo)

theorem findCase_of_heldCase {store : Store} {caseId : Int} {found : Case}
    (held : heldCase store caseId = .ok found) : store.findCase caseId = some found := by
  rw [heldCase] at held
  split at held
  · next there =>
    cases held
    exact there
  · cases held

theorem findTry_of_heldTry {store : Store} {caseId tryNo : Int} {t : Try}
    (held : heldTry store caseId tryNo = .ok t) : store.findTry caseId tryNo = some t := by
  rw [heldTry] at held
  split at held
  · cases held
  · next there =>
    cases held
    exact there
  · cases held

section

variable {store : Store} {caseId tryNo : Int} {e : Error}

theorem heldCase_eq_error (failed : heldCase store caseId = .error e) :
    store.findCase caseId = none ∧ e.kind? = some .notFound := by
  rw [heldCase] at failed
  split at failed
  · cases failed
  · next none =>
    cases failed
    exact ⟨none, rfl⟩

theorem heldCase_of_findCase_none (none : store.findCase caseId = none) :
    heldCase store caseId = .error (.caseNotFound caseId) := by
  rw [heldCase, none]

/-- The case or the try is not there. -/
def Unheld (store : Store) (caseId tryNo : Int) : Prop :=
  store.findCase caseId = none ∨ store.findTry caseId tryNo = none

theorem heldTry_eq_error (failed : heldTry store caseId tryNo = .error e) :
    Unheld store caseId tryNo ∧ e.kind? = some .notFound := by
  rw [heldTry] at failed
  split at failed
  · next cause missing =>
    cases failed
    exact (heldCase_eq_error missing).imp_left .inl
  · cases failed
  · next none =>
    cases failed
    exact ⟨.inr none, rfl⟩

theorem exists_of_unheld (unheld : Unheld store caseId tryNo) :
    ∃ e, heldTry store caseId tryNo = .error e ∧ e.kind? = some .notFound := by
  cases held : heldTry store caseId tryNo with
  | error e => exact ⟨e, rfl, (heldTry_eq_error held).2⟩
  | ok t =>
    rcases unheld with none | none
    · rw [heldTry, heldCase_of_findCase_none none] at held
      cases held
    · cases none.symm.trans (findTry_of_heldTry held)

end

variable [Platform]

section

variable (session : Session) (caseId tryNo : Int)

theorem run_requireCase :
    (requireCase caseId).run session = (heldCase session.store caseId, session) := by
  rw [requireCase, run_getCase_bind, heldCase]
  cases session.store.findCase caseId <;> rfl

theorem run_requireCase_bind {α : Type} (f : Case → Program α) :
    (requireCase caseId >>= f).run session =
      (ofExcept (heldCase session.store caseId) >>= f).run session := by
  rw [run_bind, run_requireCase, run_bind, run_ofExcept]

theorem run_requireTry :
    (requireTry caseId tryNo).run session = (heldTry session.store caseId tryNo, session) := by
  rw [requireTry, run_requireCase_bind, heldTry]
  cases heldCase session.store caseId with
  | error e => rfl
  | ok found =>
    rw [run_ok_bind, run_getTry_bind]
    cases session.store.findTry caseId tryNo <;> rfl

theorem run_requireTry_bind {α : Type} (f : Try → Program α) :
    (requireTry caseId tryNo >>= f).run session =
      (ofExcept (heldTry session.store caseId tryNo) >>= f).run session := by
  rw [run_bind, run_requireTry, run_bind, run_ofExcept]

/-! ## Reading -/

theorem run_getTry :
    (getTry caseId tryNo).run session =
      ((heldTry session.store caseId tryNo).map fun t =>
        t.view (session.store.variablesOf caseId tryNo), session) := by
  rw [getTry, run_requireTry_bind]
  cases heldTry session.store caseId tryNo <;> rfl

theorem run_viewAll (tries : List Try) :
    (viewAll caseId tries).run session =
      (.ok (tries.map fun t => t.view (session.store.variablesOf caseId t.tryNo)), session) := by
  induction tries with
  | nil => rfl
  | cons t tries ih =>
    rw [viewAll, run_getVariables_bind, run_bind_of_ok ih]
    rfl

theorem run_listTries :
    (listTries caseId).run session =
      ((heldCase session.store caseId).map fun _ =>
        (session.store.triesOf caseId).map fun t =>
          t.view (session.store.variablesOf caseId t.tryNo), session) := by
  rw [listTries, run_requireCase_bind]
  cases heldCase session.store caseId with
  | error e => rfl
  | ok found => exact run_viewAll session caseId (session.store.triesOf caseId)

/-- A try and its args with a phrase. -/
def liveArgs (store : Store) (caseId tryNo : Int) (phrase : Option Text) :
    Except Error (Try × Json) := do
  let t ← heldTry store caseId tryNo
  let args ← t.compile (store.variablesOf caseId tryNo) phrase
  pure (t, args)

theorem run_compileLive (phrase : Option Text) :
    (compileLive caseId tryNo phrase).run session =
      (liveArgs session.store caseId tryNo phrase, session) := by
  rw [compileLive, run_requireTry_bind, liveArgs]
  cases heldTry session.store caseId tryNo with
  | error e => rfl
  | ok t =>
    rw [run_ok_bind, run_getVariables_bind, run_bind, run_ofExcept]
    change _ = (t.compile (session.store.variablesOf caseId tryNo) phrase >>= _, session)
    cases t.compile (session.store.variablesOf caseId tryNo) phrase <;> rfl

theorem run_previewArgs (phrase : Option Text) :
    (previewArgs caseId tryNo phrase).run session =
      ((liveArgs session.store caseId tryNo phrase).map Prod.snd, session) := by
  rw [previewArgs, run_bind, run_compileLive]
  cases liveArgs session.store caseId tryNo phrase <;> rfl

theorem run_preview (phrase : Option Text) :
    (preview caseId tryNo phrase).run session =
      ((do
        let (t, args) ← liveArgs session.store caseId tryNo phrase
        pure (args, ← Request.build t args)), session) := by
  rw [preview, run_bind, run_compileLive]
  cases liveArgs session.store caseId tryNo phrase with
  | error e => rfl
  | ok live =>
    obtain ⟨t, args⟩ := live
    change Program.run (ofExcept (Request.build t args) >>= fun r => pure (args, r)) session =
      (Request.build t args >>= fun r => pure (args, r), session)
    cases Request.build t args <;> rfl

theorem run_buildRequest (phrase : Option Text) :
    (buildRequest caseId tryNo phrase).run session =
      (((preview caseId tryNo phrase).run session).1.map Prod.snd, session) := by
  rw [buildRequest, run_bind, run_preview]
  cases (do
    let (t, args) ← liveArgs session.store caseId tryNo phrase
    pure (args, ← Request.build t args) : Except Error (Json × Option Request)) <;> rfl

end

/-! ## Saving -/

section

variable {α : Type} {session : Session} {t : Try} (f : Unit → Program α)

theorem run_save :
    (save t).run session =
      ((session.store.saveTry t).1, { session with store := (session.store.saveTry t).2 }) := rfl

theorem run_save_bind_of_fits (fits : t.args.levels ≤ Platform.copying) :
    (save t >>= f).run session = (f ()).run { session with store := session.store.putTry t } := by
  have saved : session.store.saveTry t = (.ok (), session.store.putTry t) := if_pos fits
  have ran : (save t).run session = (.ok (), { session with store := session.store.putTry t }) := by
    rw [run_save, saved]
  exact run_bind_of_ok ran f

theorem run_save_bind_of_deep (deep : Platform.copying < t.args.levels) :
    (save t >>= f).run session = (.error .outOfStack, session) := by
  have refused : session.store.saveTry t = (.error .outOfStack, session.store) :=
    if_neg (Nat.not_le.mpr deep)
  have ran : (save t).run session = (.error .outOfStack, session) := by rw [run_save, refused]
  rw [run_bind, ran]

end

/-! ## Making a case -/

/-- How making a case can end. -/
inductive CaseOutcome (session : Session) : Except Error Case × Session → Prop where
  | refused (e : Error) : CaseOutcome session (.error e, session)
  | made (name : Text) :
      CaseOutcome session (.ok (session.store.createCase name).1,
        { session with store := (session.store.createCase name).2 })

theorem createCase_outcome (session : Session) (name : Json) :
    CaseOutcome session ((createCase name).run session) := by
  cases name with
  | str name => exact .made name
  | _ => exact .refused _

/-! ## Making a try -/

/-- What a new try is made from, when nothing is refused before it takes its number. -/
structure Draft (config : Config) (store : Store) (caseId : Int) (submission : Submission) where
  fields : TryFields
  owner : Case
  engine : Engine
  defaults : EngineDefaults
  vars : Variables
  fields_read : submission.forCreate = .ok fields
  owner_found : store.findCase caseId = some owner
  engine_chosen : chosenEngine config fields = .ok engine
  defaults_found : config.defaultsFor engine.tag = .ok defaults
  vars_accepted : Variables.ofEntries fields.curatorVars = .ok vars

namespace Draft

variable {config : Config} {store : Store} {caseId : Int} {submission : Submission}
variable (draft : Draft config store caseId submission)

/-- There is at most one draft: each of its parts is computed from what was submitted. -/
theorem unique (other : Draft config store caseId submission) : draft = other := by
  obtain ⟨fields, owner, engine, defaults, vars, read, found, chosen, defaulted, accepted⟩ := draft
  obtain ⟨fields', owner', engine', defaults', vars', read', found', chosen', defaulted',
    accepted'⟩ := other
  cases read.symm.trans read'
  cases found.symm.trans found'
  cases chosen.symm.trans chosen'
  cases defaulted.symm.trans defaulted'
  cases accepted.symm.trans accepted'
  rfl

/-- The number that the try takes. -/
def tryNo : Int := draft.owner.lastTry + 1

/-- The try can be given a name: one is submitted, or its number is not too long for one. -/
def Nameable : Prop := draft.fields.name.getD [] ≠ [] ∨ Numeral.fits draft.tryNo = true

/-- The name of the try, if it can be given one. -/
def name : Text :=
  if draft.fields.name.getD [] = [] then
    config.tryNamePrefix ++ Text.ofString " " ++ Numeral.ofInt draft.tryNo
  else draft.fields.name.getD []

/-- The try without its args. -/
def blank : Try :=
  newTry draft.defaults draft.engine draft.fields caseId draft.tryNo draft.name

/-- The try with its args. -/
def finished (args : Json) : Try := { draft.blank with args }

/-- The store once the number is taken. -/
def counted : Store :=
  { store with
    cases := Table.insert caseId { draft.owner with lastTry := draft.tryNo } store.cases }

/-- The store with the variables of the try, but without the try. -/
def orphaned : Store := draft.counted.replaceVariables caseId draft.tryNo draft.vars.map

/-- The store with the try and its variables. -/
def stored (args : Json) : Store := draft.orphaned.putTry (draft.finished args)

theorem newName_of_nameable (nameable : draft.Nameable) :
    newName config.tryNamePrefix (draft.fields.name.getD []) draft.tryNo = .ok draft.name := by
  rw [newName, name]
  by_cases empty : draft.fields.name.getD [] = []
  · rw [if_pos empty, if_pos empty, if_pos (nameable.resolve_left (not_not_intro empty))]
  · rw [if_neg empty, if_neg empty]

theorem newName_of_not_nameable (unnameable : ¬ draft.Nameable) :
    newName config.tryNamePrefix (draft.fields.name.getD []) draft.tryNo =
      .error .tooManyDigits := by
  obtain ⟨empty, long⟩ := not_or.mp unnameable
  rw [newName, if_pos (Decidable.not_not.mp empty), if_neg long]

theorem incrementLastTry_eq :
    store.incrementLastTry caseId = (some draft.tryNo, draft.counted) := by
  rw [Store.incrementLastTry, draft.owner_found]
  rfl

theorem run_nextTryNo_bind {session : Session}
    (draft : Draft config session.store caseId submission) {α : Type} (f : Int → Program α) :
    (nextTryNo caseId >>= f).run session =
      (f draft.tryNo).run { session with store := draft.counted } := by
  rw [run_bind, nextTryNo, run_incrementLastTry_bind, draft.incrementLastTry_eq]
  rfl

/-- The try gets as far as to be saved, but its args have too many levels for that. -/
def Unsaved : Prop :=
  draft.Nameable ∧
    ∃ args, draft.blank.compile draft.vars.map none = .ok args ∧ Platform.copying < args.levels

end Draft

/-- How making a try can end. -/
inductive CreateOutcome (config : Config) (session : Session) (caseId : Int)
    (submission : Submission) : Except Error View × Session → Prop where
  /-- Something is refused before a number is taken. -/
  | refused (e : Error) (unready : Draft config session.store caseId submission → False) :
      CreateOutcome config session caseId submission (.error e, session)
  /-- The number is too long for a name, and is lost. -/
  | unnamed (draft : Draft config session.store caseId submission)
      (unnameable : ¬ draft.Nameable) :
      CreateOutcome config session caseId submission
        (.error .tooManyDigits, { session with store := draft.counted })
  /-- The template cannot be compiled, and the number is lost. -/
  | lost (draft : Draft config session.store caseId submission) (nameable : draft.Nameable)
      (e : Error) (failed : draft.blank.compile draft.vars.map none = .error e) :
      CreateOutcome config session caseId submission
        (.error e, { session with store := draft.counted })
  /-- The try is not saved, and its variables are left without it. -/
  | orphaned (draft : Draft config session.store caseId submission) (unsaved : draft.Unsaved) :
      CreateOutcome config session caseId submission
        (.error .outOfStack, { session with store := draft.orphaned })
  | made (draft : Draft config session.store caseId submission) (nameable : draft.Nameable)
      (args : Json) (compiled : draft.blank.compile draft.vars.map none = .ok args)
      (fits : args.levels ≤ Platform.copying) :
      CreateOutcome config session caseId submission
        (.ok ((draft.finished args).view draft.vars.map),
          { store := draft.stored args
            pending := session.pending ++ [⟨caseId, draft.tryNo, draft.engine⟩] })

theorem createTry_outcome (config : Config) (session : Session) (caseId : Int)
    (submission : Submission) :
    CreateOutcome config session caseId submission
      ((createTry config caseId submission).run session) := by
  rw [createTry]
  cases read : submission.forCreate with
  | error e => exact .refused e fun draft => by cases read.symm.trans draft.fields_read
  | ok fields =>
  rw [run_ok_bind, run_requireCase_bind]
  cases held : heldCase session.store caseId with
  | error e =>
    refine .refused e fun draft => ?_
    rw [heldCase, draft.owner_found] at held
    cases held
  | ok owner =>
  rw [run_ok_bind]
  cases chosen : chosenEngine config fields with
  | error e =>
    refine .refused e fun draft => ?_
    cases read.symm.trans draft.fields_read
    cases chosen.symm.trans draft.engine_chosen
  | ok engine =>
  rw [run_ok_bind]
  cases defaulted : config.defaultsFor engine.tag with
  | error e =>
    refine .refused e fun draft => ?_
    cases read.symm.trans draft.fields_read
    cases chosen.symm.trans draft.engine_chosen
    cases defaulted.symm.trans draft.defaults_found
  | ok defaults =>
  rw [run_ok_bind]
  cases accepted : Variables.ofEntries fields.curatorVars with
  | error e =>
    refine .refused e fun draft => ?_
    cases read.symm.trans draft.fields_read
    cases accepted.symm.trans draft.vars_accepted
  | ok vars =>
  let draft : Draft config session.store caseId submission :=
    ⟨fields, owner, engine, defaults, vars, read, findCase_of_heldCase held, chosen, defaulted,
      accepted⟩
  rw [run_ok_bind, draft.run_nextTryNo_bind]
  change CreateOutcome config session caseId submission
    (Program.run (ofExcept (newName config.tryNamePrefix (draft.fields.name.getD []) draft.tryNo) >>=
      _) _)
  by_cases nameable : draft.Nameable
  · rw [draft.newName_of_nameable nameable, run_ok_bind]
    change CreateOutcome config session caseId submission
      (Program.run (ofExcept (draft.blank.compile vars.map none) >>= _) _)
    cases compiled : draft.blank.compile vars.map none with
    | error e => exact .lost draft nameable e compiled
    | ok args =>
      rw [run_ok_bind]
      change CreateOutcome config session caseId submission
        (Program.run (save (draft.finished args) >>= _) { session with store := draft.orphaned })
      rcases Nat.lt_or_ge Platform.copying args.levels with deep | fits
      · rw [run_save_bind_of_deep _ deep]
        exact .orphaned draft ⟨nameable, args, compiled, deep⟩
      · rw [run_save_bind_of_fits _ fits]
        exact .made draft nameable args compiled fits
  · rw [draft.newName_of_not_nameable nameable]
    exact .unnamed draft nameable

/-- How making a try ends from a draft on: whether there is a name, args and room for them is fixed
by the draft. -/
def Draft.ending {config : Config} {session : Session} {caseId : Int} {submission : Submission}
    (draft : Draft config session.store caseId submission) : Except Error View × Session :=
  match newName config.tryNamePrefix (draft.fields.name.getD []) draft.tryNo with
  | .error e => (.error e, { session with store := draft.counted })
  | .ok _ =>
    match draft.blank.compile draft.vars.map none with
    | .error e => (.error e, { session with store := draft.counted })
    | .ok args =>
      if args.levels ≤ Platform.copying then
        (.ok ((draft.finished args).view draft.vars.map),
          { store := draft.stored args
            pending := session.pending ++ [⟨caseId, draft.tryNo, draft.engine⟩] })
      else (.error .outOfStack, { session with store := draft.orphaned })

namespace CreateOutcome

variable {config : Config} {session : Session} {caseId : Int} {submission : Submission}
  (draft : Draft config session.store caseId submission) {ended other : Except Error View × Session}

theorem eq_ending (outcome : CreateOutcome config session caseId submission ended) :
    ended = draft.ending := by
  cases outcome with
  | refused e unready => exact (unready draft).elim
  | unnamed first unnameable =>
    cases first.unique draft
    rw [Draft.ending, draft.newName_of_not_nameable unnameable]
  | lost first nameable e failed =>
    cases first.unique draft
    simp only [Draft.ending, draft.newName_of_nameable nameable, failed]
  | orphaned first unsaved =>
    cases first.unique draft
    obtain ⟨nameable, args, compiled, deep⟩ := unsaved
    simp only [Draft.ending, draft.newName_of_nameable nameable, compiled]
    rw [if_neg (Nat.not_le.mpr deep)]
  | made first nameable args compiled fits =>
    cases first.unique draft
    simp only [Draft.ending, draft.newName_of_nameable nameable, compiled]
    rw [if_pos fits]

include draft in
/-- From a draft on there is one way to end. -/
theorem eq_of_draft (one : CreateOutcome config session caseId submission ended)
    (two : CreateOutcome config session caseId submission other) : ended = other :=
  (one.eq_ending draft).trans (two.eq_ending draft).symm

end CreateOutcome

/-! ## Naming a try -/

/-- How giving a try a new name can end, where the name is read first. -/
inductive NameOutcome (session : Session) (caseId tryNo : Int) (read : Except Error (Option Text)) :
    Except Error View × Session → Prop where
  | refused (e : Error) : NameOutcome session caseId tryNo read (.error e, session)
  /-- There is no new name, or it is the old one. -/
  | kept (name : Option Text) (given : read = .ok name) (t : Try)
      (held : heldTry session.store caseId tryNo = .ok t) (same : name.getD t.name = t.name) :
      NameOutcome session caseId tryNo read
        (.ok (t.view (session.store.variablesOf caseId tryNo)), session)
  | named (name : Option Text) (given : read = .ok name) (t : Try)
      (held : heldTry session.store caseId tryNo = .ok t) (other : name.getD t.name ≠ t.name)
      (fits : t.args.levels ≤ Platform.copying) :
      NameOutcome session caseId tryNo read
        (.ok ({ t with name := name.getD t.name }.view (session.store.variablesOf caseId tryNo)),
          { session with store := session.store.putTry { t with name := name.getD t.name } })

section

variable {session : Session} {caseId tryNo : Int} {name : Option Text} {t : Try}

theorem run_nameTry_of_error {e : Error} (missing : heldTry session.store caseId tryNo = .error e)
    (name : Option Text) : (nameTry caseId tryNo name).run session = (.error e, session) := by
  rw [nameTry, run_requireTry_bind, missing]
  rfl

variable (held : heldTry session.store caseId tryNo = .ok t)

include held

theorem run_nameTry_of_same (same : name.getD t.name = t.name) :
    (nameTry caseId tryNo name).run session =
      (.ok (t.view (session.store.variablesOf caseId tryNo)), session) := by
  have unchanged : { t with name := name.getD t.name } = t := by rw [same]
  rw [nameTry, run_requireTry_bind, held, run_ok_bind]
  simp only [unchanged]
  rw [if_neg (not_not_intro same)]
  rfl

theorem run_nameTry_of_fits (other : name.getD t.name ≠ t.name)
    (fits : t.args.levels ≤ Platform.copying) :
    (nameTry caseId tryNo name).run session =
      (.ok ({ t with name := name.getD t.name }.view (session.store.variablesOf caseId tryNo)),
        { session with store := session.store.putTry { t with name := name.getD t.name } }) := by
  have renamed : ({ t with name := name.getD t.name } : Try).args.levels ≤ Platform.copying := fits
  rw [nameTry, run_requireTry_bind, held, run_ok_bind, if_pos other]
  exact run_save_bind_of_fits _ renamed

theorem run_nameTry_of_deep (other : name.getD t.name ≠ t.name)
    (deep : Platform.copying < t.args.levels) :
    (nameTry caseId tryNo name).run session = (.error .outOfStack, session) := by
  have renamed : Platform.copying < ({ t with name := name.getD t.name } : Try).args.levels := deep
  rw [nameTry, run_requireTry_bind, held, run_ok_bind, if_pos other]
  exact run_save_bind_of_deep _ renamed

end

theorem nameTry_outcome (session : Session) (caseId tryNo : Int) (name : Option Text) :
    NameOutcome session caseId tryNo (.ok name) ((nameTry caseId tryNo name).run session) := by
  cases held : heldTry session.store caseId tryNo with
  | error e =>
    rw [run_nameTry_of_error held]
    exact .refused e
  | ok t =>
    by_cases same : name.getD t.name = t.name
    · rw [run_nameTry_of_same held same]
      exact .kept name rfl t held same
    · rcases Nat.lt_or_ge Platform.copying t.args.levels with deep | fits
      · rw [run_nameTry_of_deep held same deep]
        exact .refused _
      · rw [run_nameTry_of_fits held same fits]
        exact .named name rfl t held same fits

/-- The name of a try is read, and then the try can be missing, or have too many levels to be
saved. -/
theorem nameTry_eq_error {session : Session} {caseId tryNo : Int} {name : Option Text} {e : Error}
    (failed : ((nameTry caseId tryNo name).run session).1 = .error e) :
    heldTry session.store caseId tryNo = .error e ∨
      e = .outOfStack ∧
        ∃ t, heldTry session.store caseId tryNo = .ok t ∧ Platform.copying < t.args.levels := by
  cases held : heldTry session.store caseId tryNo with
  | error cause =>
    rw [run_nameTry_of_error held] at failed
    cases failed
    exact .inl rfl
  | ok t =>
    by_cases same : name.getD t.name = t.name
    · rw [run_nameTry_of_same held same] at failed
      cases failed
    · rcases Nat.lt_or_ge Platform.copying t.args.levels with deep | fits
      · rw [run_nameTry_of_deep held same deep] at failed
        cases failed
        exact .inr ⟨rfl, t, rfl, deep⟩
      · rw [run_nameTry_of_fits held same fits] at failed
        cases failed

theorem updateTry_outcome (session : Session) (caseId tryNo : Int) (submission : Submission) :
    NameOutcome session caseId tryNo submission.newName
      ((updateTry caseId tryNo submission).run session) := by
  rw [updateTry]
  cases submission.newName with
  | error e => exact .refused e
  | ok name => exact nameTry_outcome session caseId tryNo name

/-- The name that a value is, where it may be `null`. -/
def nameOfJson (name : Json) : Except Error (Option Text) :=
  let members := [(Text.ofString "name", name)]
  ((TryFields.ofMembers members).toExcept.mapError
    (Error.ofFaults .invalidRecord "TryFields" (.obj members))).map TryFields.name

theorem renameTry_outcome (session : Session) (caseId tryNo : Int) (name : Json) :
    NameOutcome session caseId tryNo (nameOfJson name)
      ((renameTry caseId tryNo name).run session) := by
  rw [renameTry, nameOfJson]
  let members := [(Text.ofString "name", name)]
  cases (TryFields.ofMembers members).toExcept.mapError
    (Error.ofFaults .invalidRecord "TryFields" (.obj members)) with
  | error e => exact .refused e
  | ok fields => exact updateTry_outcome session caseId tryNo (.checked fields)

/-! ## Deleting a try -/

/-- How deleting a try can end. -/
inductive DeleteOutcome (session : Session) (caseId tryNo : Int) :
    Except Error Unit × Session → Prop where
  | refused (e : Error) : DeleteOutcome session caseId tryNo (.error e, session)
  | deleted (owner : Case) (found : session.store.findCase caseId = some owner)
      (there : Table.has (caseId, tryNo) session.store.tries = true) :
      DeleteOutcome session caseId tryNo
        (.ok (), { session with store := (session.store.deleteTry caseId tryNo).2 })

theorem deleteTry_outcome (session : Session) (caseId tryNo : Int) :
    DeleteOutcome session caseId tryNo ((deleteTry caseId tryNo).run session) := by
  rw [deleteTry, run_requireCase_bind]
  cases held : heldCase session.store caseId with
  | error e => exact .refused e
  | ok owner =>
    rw [run_ok_bind, run_deleteTry_bind]
    by_cases there : Table.has (caseId, tryNo) session.store.tries = true
    · have deleted : (session.store.deleteTry caseId tryNo).1 = true := by
        rw [Store.deleteTry, if_pos there]
      rw [deleted]
      exact .deleted owner (findCase_of_heldCase held) there
    · have unchanged : session.store.deleteTry caseId tryNo = (false, session.store) := by
        rw [Store.deleteTry, if_neg there]
      rw [unchanged]
      exact .refused _

/-! ## Changing the variables of a try -/

/-- How changing the variables of a try can end. -/
inductive TuneOutcome (session : Session) (caseId tryNo : Int)
    (change : Variables → Except Error Variables) : Except Error View × Session → Prop where
  | refused (e : Error) : TuneOutcome session caseId tryNo change (.error e, session)
  /-- The variables are changed in nothing. -/
  | kept (t : Try) (held : heldTry session.store caseId tryNo = .ok t) (vars : Variables)
      (changed : (Variables.ofEntries (session.store.variablesOf caseId tryNo) >>= change) =
        .ok vars)
      (none : vars.changes = 0) :
      TuneOutcome session caseId tryNo change (.ok (t.view vars.map), session)
  | tuned (t : Try) (held : heldTry session.store caseId tryNo = .ok t) (vars : Variables)
      (changed : (Variables.ofEntries (session.store.variablesOf caseId tryNo) >>= change) =
        .ok vars)
      (some : vars.changes ≠ 0) (args : Json) (compiled : t.compile vars.map none = .ok args)
      (fits : args.levels ≤ Platform.copying) :
      TuneOutcome session caseId tryNo change
        (.ok ({ t with args }.view vars.map),
          { session with
            store :=
              (session.store.replaceVariables caseId tryNo vars.map).putTry { t with args } })
  /-- The new args have too many levels to be saved, and the try keeps the old ones. -/
  | stale (t : Try) (held : heldTry session.store caseId tryNo = .ok t) (vars : Variables)
      (changed : (Variables.ofEntries (session.store.variablesOf caseId tryNo) >>= change) =
        .ok vars)
      (some : vars.changes ≠ 0) (args : Json) (compiled : t.compile vars.map none = .ok args)
      (deep : Platform.copying < args.levels) :
      TuneOutcome session caseId tryNo change
        (.error .outOfStack,
          { session with store := session.store.replaceVariables caseId tryNo vars.map })

section

variable {session : Session} {caseId tryNo : Int} {change : Variables → Except Error Variables}
  {t : Try} {vars : Variables} {args : Json} {e : Error}

theorem run_changeVariables_of_error (missing : heldTry session.store caseId tryNo = .error e)
    (change : Variables → Except Error Variables) :
    (changeVariables caseId tryNo change).run session = (.error e, session) := by
  rw [changeVariables, run_requireTry_bind, missing]
  rfl

variable (held : heldTry session.store caseId tryNo = .ok t)

include held

theorem run_changeVariables_of_unchanged
    (unchanged : (Variables.ofEntries (session.store.variablesOf caseId tryNo) >>= change) =
      .error e) :
    (changeVariables caseId tryNo change).run session = (.error e, session) := by
  rw [changeVariables, run_requireTry_bind, held, run_ok_bind, run_getVariables_bind, unchanged]
  rfl

variable
  (changed : (Variables.ofEntries (session.store.variablesOf caseId tryNo) >>= change) = .ok vars)

include changed

theorem run_changeVariables_of_none (none : vars.changes = 0) :
    (changeVariables caseId tryNo change).run session = (.ok (t.view vars.map), session) := by
  rw [changeVariables, run_requireTry_bind, held, run_ok_bind, run_getVariables_bind, changed,
    run_ok_bind, if_pos none]
  rfl

variable (some : vars.changes ≠ 0)

include some

theorem run_changeVariables_of_uncompiled (uncompiled : t.compile vars.map none = .error e) :
    (changeVariables caseId tryNo change).run session = (.error e, session) := by
  rw [changeVariables, run_requireTry_bind, held, run_ok_bind, run_getVariables_bind, changed,
    run_ok_bind, if_neg some, uncompiled]
  rfl

variable (compiled : t.compile vars.map none = .ok args)

include compiled

/-- What is left to do once the args have been compiled is to save the try. -/
theorem run_changeVariables_of_compiled :
    (changeVariables caseId tryNo change).run session =
      (save { t with args } >>= fun _ => pure ({ t with args }.view vars.map)).run
        { session with store := session.store.replaceVariables caseId tryNo vars.map } := by
  rw [changeVariables, run_requireTry_bind, held, run_ok_bind, run_getVariables_bind, changed,
    run_ok_bind, if_neg some, compiled, run_ok_bind]
  rfl

theorem run_changeVariables_of_fits (fits : args.levels ≤ Platform.copying) :
    (changeVariables caseId tryNo change).run session =
      (.ok ({ t with args }.view vars.map),
        { session with
          store :=
            (session.store.replaceVariables caseId tryNo vars.map).putTry { t with args } }) :=
  (run_changeVariables_of_compiled held changed some compiled).trans (run_save_bind_of_fits _ fits)

theorem run_changeVariables_of_deep (deep : Platform.copying < args.levels) :
    (changeVariables caseId tryNo change).run session =
      (.error .outOfStack,
        { session with store := session.store.replaceVariables caseId tryNo vars.map }) :=
  (run_changeVariables_of_compiled held changed some compiled).trans (run_save_bind_of_deep _ deep)

end

theorem changeVariables_outcome (session : Session) (caseId tryNo : Int)
    (change : Variables → Except Error Variables) :
    TuneOutcome session caseId tryNo change
      ((changeVariables caseId tryNo change).run session) := by
  cases held : heldTry session.store caseId tryNo with
  | error e =>
    rw [run_changeVariables_of_error held]
    exact .refused e
  | ok t =>
  cases changed : Variables.ofEntries (session.store.variablesOf caseId tryNo) >>= change with
  | error e =>
    rw [run_changeVariables_of_unchanged held changed]
    exact .refused e
  | ok vars =>
  by_cases none : vars.changes = 0
  · rw [run_changeVariables_of_none held changed none]
    exact .kept t held vars changed none
  cases compiled : t.compile vars.map Option.none with
  | error e =>
    rw [run_changeVariables_of_uncompiled held changed none compiled]
    exact .refused e
  | ok args =>
  rcases Nat.lt_or_ge Platform.copying args.levels with deep | fits
  · rw [run_changeVariables_of_deep held changed none compiled deep]
    exact .stale t held vars changed none args compiled deep
  · rw [run_changeVariables_of_fits held changed none compiled fits]
    exact .tuned t held vars changed none args compiled fits

theorem setVariable_outcome (session : Session) (caseId tryNo : Int) (name value : Json) :
    TuneOutcome session caseId tryNo (fun vars => vars.set name value)
      ((setVariable caseId tryNo name value).run session) :=
  changeVariables_outcome session caseId tryNo _

theorem removeVariable_outcome (session : Session) (caseId tryNo : Int) (name : Text) :
    TuneOutcome session caseId tryNo (fun vars => .ok (vars.remove name).2)
      ((removeVariable caseId tryNo name).run session) :=
  changeVariables_outcome session caseId tryNo _

end SearchTuning.Lifecycle

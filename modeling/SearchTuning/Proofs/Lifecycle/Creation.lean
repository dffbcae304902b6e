import SearchTuning.Proofs.Store.Tuning
import SearchTuning.Proofs.Tries.Taken

/-!
# The making of a try

A try is made just when its fields can be taken, its case exists, its engine is one that has
defaults, all names of its variables are accepted, its template is not nested too deeply, it can be
named, and its args can be copied into the store.  It then stands in the store with each field that
was given, and with the defaults of its engine for the others; nothing else of the store has changed
but the count of its case.
-/

namespace SearchTuning

/-! ## What a try is made of -/

namespace Lifecycle

variable [Platform]

/-- What is asked of the submission for a new try: fields, a case, an engine with defaults, names
that are accepted, and a template that is not nested too deeply once its variables are filled in. -/
structure Acceptable (config : Config) (store : Store) (caseId : Int) (submission : Submission)
    (fields : TryFields) (owner : Case) (engine : Engine) (defaults : EngineDefaults) : Prop where
  given : submission.Gives fields
  owned : store.findCase caseId = some owner
  /-- The engine is the one that was asked for, or else the one that the configuration names. -/
  chosen : fields.engine = some engine ∨ fields.engine = none ∧ config.defaultEngine = engine.tag
  defaulted : Table.get? engine.tag config.engines = some defaults
  named : ∀ name ∈ fields.curatorVars.map Prod.fst, VariableName.isValid name = true
  shallow : engine = .es → ∀ container,
    Json.read (Template.fill (Variables.lastGiven fields.curatorVars)
      (fields.queryParams.getD defaults.queryParams)) ≠ .error (.tooDeep container)

/-- All that a new try needs: what is asked of the submission, a name or a number that is not too
long for one, and args with few enough levels to be copied. -/
structure Creatable (config : Config) (store : Store) (caseId : Int) (submission : Submission)
    (fields : TryFields) (owner : Case) (engine : Engine) (defaults : EngineDefaults) : Prop
    extends Acceptable config store caseId submission fields owner engine defaults where
  nameable : fields.name.getD [] ≠ [] ∨ Numeral.fits (owner.lastTry + 1) = true
  copyable : ∀ args, Args.Compiled engine (Template.fill (Variables.lastGiven fields.curatorVars)
    (fields.queryParams.getD defaults.queryParams)) args → args.levels ≤ Platform.copying

/-- The new try and its variables: it has the next number of its case, each field as it was given
and otherwise as its engine has it, and the args of its template. -/
structure MadeOf (config : Config) (caseId : Int) (fields : TryFields) (owner : Case)
    (engine : Engine) (defaults : EngineDefaults) (t : Try) (vars : VariableMap) : Prop where
  filed : t.caseId = caseId
  counted : t.tryNo = owner.lastTry + 1
  searched : t.engine = engine
  searchUrl : t.searchUrl = fields.searchUrl.getD defaults.searchUrl
  fieldSpec : t.fieldSpec = fields.fieldSpec.getD defaults.fieldSpec
  queryParams : t.queryParams = fields.queryParams.getD defaults.queryParams
  escapeQuery : t.escapeQuery = fields.escapeQuery.getD defaults.escapeQuery
  numberOfRows : t.numberOfRows = fields.numberOfRows.getD defaults.numberOfRows
  named : ∀ name, fields.name = some name → name ≠ [] → t.name = name
  /-- A try that is given no name, or an empty one, has a name made from its number. -/
  numbered : fields.name.getD [] = [] →
    t.name = config.tryNamePrefix ++ Text.ofString " " ++ Numeral.ofInt t.tryNo
  /-- Variables are held in the order of their names, each with the value that was given last. -/
  vars_tidy : vars.Tidy
  vars_last : ∀ name, vars.lookup name = Variables.lastGiven fields.curatorVars name
  compiled : Args.Compiled engine (Template.fill vars.lookup t.queryParams) t.args

end Lifecycle

/-- The store with one try more, which its case has counted, and with the variables of the try. -/
def Store.withTry (t : Try) (vars : VariableMap) (store : Store) : Store :=
  { store with
    cases := Table.modify t.caseId (fun c => { c with lastTry := c.lastTry + 1 }) store.cases
    tries := store.tries ++ [((t.caseId, t.tryNo), t)]
    variableMaps :=
      if vars = [] then store.variableMaps
      else store.variableMaps ++ [((t.caseId, t.tryNo), vars)] }

theorem Engine.ofTag?_eq_some_iff {tag : Text} {engine : Engine} :
    ofTag? tag = some engine ↔ tag = engine.tag := by
  constructor
  · intro found
    have same := List.find?_some found
    exact (of_decide_eq_true same).symm
  · rintro rfl
    cases engine <;> decide

namespace Lifecycle

open Program Store

section

variable {config : Config} {store : Store} {caseId : Int} {submission : Submission}

theorem chosenEngine_eq_ok_iff {fields : TryFields} {engine : Engine} :
    chosenEngine config fields = .ok engine ↔
      fields.engine = some engine ∨ fields.engine = none ∧ config.defaultEngine = engine.tag := by
  rw [chosenEngine]
  cases fields.engine with
  | some given => simp
  | none =>
    simp only [reduceCtorEq, true_and, false_or]
    rw [Config.engineByDefault, ← Engine.ofTag?_eq_some_iff]
    cases Engine.ofTag? config.defaultEngine <;> simp

theorem defaultsFor_eq_ok_iff {tag : Text} {defaults : EngineDefaults} :
    config.defaultsFor tag = .ok defaults ↔ Table.get? tag config.engines = some defaults := by
  rw [Config.defaultsFor]
  cases Table.get? tag config.engines <;> simp

/-! ## Drafts -/

variable [Platform]

namespace Draft

variable (draft : Draft config store caseId submission)

theorem lookup_vars : draft.vars.map.lookup = Variables.lastGiven draft.fields.curatorVars :=
  funext (Variables.ofEntries_eq_ok_iff.mp draft.vars_accepted).2.2.2

theorem tidy_vars : draft.vars.map.Tidy :=
  (Variables.ofEntries_eq_ok_iff.mp draft.vars_accepted).2.2.1

theorem text_eq :
    draft.text = Template.fill (Variables.lastGiven draft.fields.curatorVars)
      (draft.fields.queryParams.getD draft.defaults.queryParams) := by
  rw [text, draft.lookup_vars]
  rfl

theorem compiled_of_blank {args : Json}
    (compiled : draft.blank.compile draft.vars.map none = .ok args) :
    Args.Compiled draft.engine (Template.fill (Variables.lastGiven draft.fields.curatorVars)
      (draft.fields.queryParams.getD draft.defaults.queryParams)) args := by
  rw [← draft.text_eq]
  exact Try.compiled_of_compile compiled

/-- A draft that can be named, and whose template compiles to args that can be copied, has all that
a new try needs. -/
theorem creatable (nameable : draft.Nameable) {args : Json}
    (compiled : draft.blank.compile draft.vars.map none = .ok args)
    (fits : args.levels ≤ Platform.copying) :
    Creatable config store caseId submission draft.fields draft.owner draft.engine
      draft.defaults where
  given := Submission.forCreate_eq_ok_iff.mp draft.fields_read
  owned := draft.owner_found
  chosen := chosenEngine_eq_ok_iff.mp draft.engine_chosen
  defaulted := defaultsFor_eq_ok_iff.mp draft.defaults_found
  named := (Variables.ofEntries_eq_ok_iff.mp draft.vars_accepted).1
  shallow := by
    intro document container deep
    rw [← draft.text_eq] at deep
    have failed := compile_eq_error_iff.mpr ⟨document, container, deep, rfl⟩
    cases compiled.symm.trans failed
  nameable := nameable
  copyable := by
    intro other comes
    cases (draft.compiled_of_blank compiled).unique comes
    exact fits

theorem madeOf {args : Json} (compiled : draft.blank.compile draft.vars.map none = .ok args) :
    MadeOf config caseId draft.fields draft.owner draft.engine draft.defaults
      (draft.finished args) draft.vars.map where
  filed := rfl
  counted := rfl
  searched := rfl
  searchUrl := rfl
  fieldSpec := rfl
  queryParams := rfl
  escapeQuery := rfl
  numberOfRows := rfl
  named := by
    intro name given filled
    change (if draft.fields.name.getD [] = [] then _ else draft.fields.name.getD []) = name
    rw [given, Option.getD_some, if_neg filled]
  numbered := by
    intro none
    change (if draft.fields.name.getD [] = [] then _ else _) = _
    rw [if_pos none]
    rfl
  vars_tidy := draft.tidy_vars
  vars_last := fun name => congrFun draft.lookup_vars name
  compiled := Try.compiled_of_compile compiled

/-- Making the try adds it to the store, and its case counts one more. -/
theorem stored_eq (kept : store.Integrity) (args : Json) :
    draft.stored args = store.withTry (draft.finished args) draft.vars.map := by
  have missing := draft.findTry_eq_none kept
  have none := draft.get?_variableMaps kept
  have cases_eq := Table.insert_eq_modify kept.cases_distinct draft.owner_found
    fun c => { c with lastTry := c.lastTry + 1 }
  have tries_eq := Table.insert_of_get?_eq_none missing (draft.finished args)
  rw [stored, orphaned, Store.putTry, Store.replaceVariables, counted, Store.withTry,
    Table.insert_of_get?_eq_none none, Table.erase_of_get? none]
  exact congrArg₂ (fun cases tries => { store with
    cases, tries, variableMaps := if draft.vars.map = [] then store.variableMaps
      else store.variableMaps ++ [((caseId, draft.tryNo), draft.vars.map)] }) cases_eq tries_eq

end Draft

namespace Creatable

variable {fields : TryFields} {owner : Case} {engine : Engine} {defaults : EngineDefaults}

/-- What has all that a new try needs is a draft that can be named, and whose template compiles to
args that can be copied. -/
theorem exists_draft
    (ready : Creatable config store caseId submission fields owner engine defaults) :
    ∃ draft : Draft config store caseId submission, draft.fields = fields ∧ draft.owner = owner ∧
      draft.engine = engine ∧ draft.defaults = defaults ∧ draft.Nameable ∧
      ∃ args, draft.blank.compile draft.vars.map none = .ok args ∧
        args.levels ≤ Platform.copying := by
  let draft : Draft config store caseId submission :=
    { fields, owner, engine, defaults
      vars := ⟨_, 0⟩
      fields_read := Submission.forCreate_eq_ok_iff.mpr ready.given
      owner_found := ready.owned
      engine_chosen := chosenEngine_eq_ok_iff.mpr ready.chosen
      defaults_found := defaultsFor_eq_ok_iff.mpr ready.defaulted
      vars_accepted := Variables.ofEntries_of_accepted ready.named }
  refine ⟨draft, rfl, rfl, rfl, rfl, ready.nameable, ?_⟩
  cases compiled : draft.blank.compile draft.vars.map none with
  | ok args => exact ⟨args, rfl, ready.copyable args (draft.compiled_of_blank compiled)⟩
  | error e =>
    obtain ⟨document, container, deep, -⟩ := compile_eq_error_iff.mp compiled
    exact absurd (draft.text_eq ▸ deep) (ready.shallow document container)

/-- What has all that it needs is made, under a number under which nothing stood. -/
theorem run_createTry {session : Session} (kept : session.store.Integrity)
    (ready : Creatable config session.store caseId submission fields owner engine defaults) :
    ∃ t vars, MadeOf config caseId fields owner engine defaults t vars ∧
      session.store.findTry caseId t.tryNo = none ∧
      (Command.createTry caseId submission).run config session =
        (.ok (.view (t.view vars)),
          { store := session.store.withTry t vars
            pending := session.pending ++ [⟨caseId, t.tryNo, engine⟩] }) := by
  obtain ⟨draft, rfl, rfl, rfl, rfl, nameable, args, compiled, fits⟩ := ready.exists_draft
  refine ⟨draft.finished args, draft.vars.map, draft.madeOf compiled, draft.findTry_eq_none kept, ?_⟩
  have ran := CreateOutcome.eq_of_draft draft (createTry_outcome config session caseId submission)
    (.made draft nameable args compiled fits)
  rw [Command.run, Command.program, run_map, ran, draft.stored_eq kept]
  rfl

end Creatable

/-- What is made has had all that it needs. -/
theorem exists_creatable_of_run {session : Session} {reply : Reply}
    (done : ((Command.createTry caseId submission).run config session).1 = .ok reply) :
    ∃ fields owner engine defaults,
      Creatable config session.store caseId submission fields owner engine defaults := by
  obtain ⟨draft, args, nameable, compiled, fits, -⟩ := exists_draft_of_createTry done
  exact ⟨_, _, _, _, draft.creatable nameable compiled fits⟩

/-! ## After every history -/

/-- A try is made just when it has all that it needs: fields that can be taken, a case, an engine
with defaults, names that are accepted, a template that is not nested too deeply, a name or a number
that is not too long for one, and args that can be copied.  Then it stands in the store as it was
given, under a number under which nothing stood, and nothing else has changed but that its case has
counted it. -/
theorem createTry_makes_one_try (past config : Config) (commands : List Command) (caseId : Int)
    (submission : Submission) :
    let session := Command.reached past commands
    ((∃ reply, ((Command.createTry caseId submission).run config session).1 = .ok reply) ↔
      ∃ fields owner engine defaults,
        Creatable config session.store caseId submission fields owner engine defaults) ∧
    ∀ fields owner engine defaults,
      Creatable config session.store caseId submission fields owner engine defaults →
      ∃ t vars, MadeOf config caseId fields owner engine defaults t vars ∧
        session.store.findTry caseId t.tryNo = none ∧
        (Command.createTry caseId submission).run config session =
          (.ok (.view (t.view vars)),
            { store := session.store.withTry t vars
              pending := session.pending ++ [⟨caseId, t.tryNo, engine⟩] }) := by
  intro session
  have kept : session.store.Integrity := integrity_reached past commands
  refine ⟨⟨?_, ?_⟩, fun fields owner engine defaults ready => ready.run_createTry kept⟩
  · rintro ⟨reply, done⟩
    exact exists_creatable_of_run done
  · rintro ⟨fields, owner, engine, defaults, ready⟩
    obtain ⟨t, vars, -, -, ended⟩ := ready.run_createTry kept
    exact ⟨.view (t.view vars), congrArg Prod.fst ended⟩

end

/-- Empty texts, false and zero are values that were given; an empty name is none, and a template
that is no document still makes a try. -/
theorem createTry_makes_one_try_empty :
    letI := Platform.usual
    let session := Command.reached Config.standard [.createCase (.str (Text.ofString "a"))]
    let submission : Submission := .unread (.obj
      [(Text.ofString "searchEngine", .str (Text.ofString "es")), (Text.ofString "name", .str []),
        (Text.ofString "queryParams", .str []), (Text.ofString "searchUrl", .str []),
        (Text.ofString "escapeQuery", .bool false), (Text.ofString "numberOfRows", .int 0)])
    ∃ t : Try, t.name = Text.ofString "Try 1" ∧ t.searchUrl = [] ∧ t.escapeQuery = false ∧
      t.numberOfRows = 0 ∧ t.args = .null ∧
      ((Command.createTry 1 submission).run Config.standard session).2.store =
        session.store.withTry t [] := by
  let _ := Platform.usual
  intro session submission
  let fields : TryFields :=
    { name := some [], engine := some .es, searchUrl := some [], fieldSpec := none
      queryParams := some [], escapeQuery := some false, numberOfRows := some 0, curatorVars := [] }
  have malformed : Json.read (Template.fill (Variables.lastGiven []) []) = .error .malformed := by
    decide
  have comes : ∀ args, Args.Compiled .es (Template.fill (Variables.lastGiven []) []) args →
      args = .null := by
    intro args compiled
    cases compiled with
    | document read => cases malformed.symm.trans read
    | malformed read => rfl
  have ready : Creatable Config.standard session.store 1 submission fields ⟨1, Text.ofString "a", 0⟩
      .es (EngineDefaults.standard .es) :=
    { given := Submission.forCreate_eq_ok_iff.mp (by decide +kernel)
      owned := by decide
      chosen := .inl rfl
      defaulted := by decide
      named := by simp [fields]
      shallow := by
        intro _ container deep
        cases malformed.symm.trans deep
      nameable := .inr (by decide +kernel)
      copyable := by
        intro args compiled
        rw [comes args compiled]
        decide }
  obtain ⟨t, vars, made, -, ended⟩ :=
    (createTry_makes_one_try Config.standard Config.standard _ 1 submission).2 _ _ _ _ ready
  have none : vars = [] := made.vars_tidy.ext VariableMap.tidy_nil made.vars_last
  subst none
  refine ⟨t, ?_, made.searchUrl, made.escapeQuery, made.numberOfRows, ?_, by rw [ended]⟩
  · rw [made.numbered rfl, made.counted]
    decide +kernel
  · have compiled := made.compiled
    rw [made.queryParams] at compiled
    exact comes t.args compiled

/-- A document of six hundred arrays, one in the other, can be read but not copied: all that is
asked of the submission is there, and no try is made. -/
theorem createTry_not_copied :
    letI := Platform.usual
    let session := Command.reached Config.standard [.createCase (.str (Text.ofString "a"))]
    let submission : Submission := .unread (.obj
      [(Text.ofString "searchEngine", .str (Text.ofString "es")),
        (Text.ofString "queryParams", .str
          (List.replicate 600 (CodePoint.ofChar '[') ++ List.replicate 600 (CodePoint.ofChar ']')))])
    (∃ fields owner engine defaults,
      Acceptable Config.standard session.store 1 submission fields owner engine defaults) ∧
    ((Command.createTry 1 submission).run Config.standard session).1 = .error .outOfStack := by
  let _ := Platform.usual
  intro session submission
  let nested : Text :=
    List.replicate 600 (CodePoint.ofChar '[') ++ List.replicate 600 (CodePoint.ofChar ']')
  let fields : TryFields :=
    { TryFields.empty with engine := some .es, queryParams := some nested }
  have read : (Json.read (Template.fill (Variables.lastGiven []) nested)).toBool = true := by
    decide +kernel
  refine ⟨⟨fields, ⟨1, Text.ofString "a", 0⟩, .es, EngineDefaults.standard .es, ?_⟩,
    by decide +kernel⟩
  exact
    { given := Submission.forCreate_eq_ok_iff.mp (by decide +kernel)
      owned := by decide
      chosen := .inl rfl
      defaulted := by decide
      named := by simp [fields, TryFields.empty]
      shallow := by
        intro _ container deep
        cases (congrArg Except.toBool deep).symm.trans read }

end Lifecycle

end SearchTuning

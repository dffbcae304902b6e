import SearchTuning.Proofs.Json.Shown
import SearchTuning.Proofs.Lifecycle.Creation
import SearchTuning.Proofs.Store.Views

/-!
# Copies of tries

The value that a view is shown as can be submitted for a new try.  Of its members `tryNo` and `args`
are no fields, and each of the others is read back as what it was written from; so the new try has
the same template with the same variables, and comes to the same args as these do now.
-/

namespace SearchTuning

/-! ## A view as fields -/

namespace Coerce

theorem engine_tag (given : Engine) : engine (.str given.tag) = .ok given := by
  rw [engine, Engine.ofTag?_eq_some_iff.mpr rfl]

theorem count_int {n : Int} (counted : 0 ≤ n) : count (.int n) = .ok n :=
  if_neg (Int.not_lt.mpr counted)

end Coerce

namespace View

/-- The fields of a view, all of which are given. -/
def fields (view : View) : TryFields :=
  { name := some view.name
    engine := some view.engine
    searchUrl := some view.searchUrl
    fieldSpec := some view.fieldSpec
    queryParams := some view.queryParams
    escapeQuery := some view.escapeQuery
    numberOfRows := some view.numberOfRows
    curatorVars := view.curatorVars }

/-- What is shown of a view gives the fields of the view. -/
theorem gives_shown [Platform] {view : View} (counted : 0 ≤ view.numberOfRows) :
    (Submission.unread view.shown).Gives view.fields :=
  .members nofun rfl
    { name := .given rfl nofun rfl
      engine := .given rfl nofun (Coerce.engine_tag view.engine)
      searchUrl := .given rfl nofun rfl
      fieldSpec := .given rfl nofun rfl
      queryParams := .given rfl nofun rfl
      escapeQuery := .given rfl nofun rfl
      numberOfRows := .given rfl nofun (Coerce.count_int counted)
      curatorVars := ⟨some view.curatorVars,
        .given rfl nofun (TryFields.variablesOfJson_objectOfVariables view.curatorVars), rfl⟩ }

end View

namespace Lifecycle

open Store

section

variable [Platform]

/-! ## Engines with defaults -/

/-- Every stored try has an engine for which the configuration has defaults. -/
def Defaulted (config : Config) (store : Store) : Prop :=
  store.Each fun t _ => ∃ defaults, Table.get? t.engine.tag config.engines = some defaults

theorem Defaulted.effect {config : Config} {command : Command} {before after : Session}
    (does : Effect config before command after) (kept : before.store.Integrity)
    (defaulted : Defaulted config before.store) : Defaulted config after.store := by
  refine Each.effect does kept defaulted ?_ ?_ ?_ ?_
  · exact fun draft _ _ _ => ⟨draft.defaults, defaultsFor_eq_ok_iff.mp draft.defaults_found⟩
  · exact fun _ _ _ known => known
  · exact fun _ _ _ _ known _ _ => known
  · exact fun _ _ _ _ known _ _ => known

theorem defaulted_reached (config : Config) (commands : List Command) :
    Defaulted config (Command.reached config commands).store :=
  runAll_of_integrity config (motive := fun session => Defaulted config session.store)
    (fun _ _ _ does kept defaulted => defaulted.effect does kept) commands integrity_empty nofun

/-! ## The copy -/

/-- The fields of a stored try are all that is needed to make it again, in any case, as long as its
args are what its template comes to. -/
theorem creatable_of_stored {config : Config} {store : Store} {caseId target tryNo : Int} {t : Try}
    {owner : Case} {payload : Json} {defaults : EngineDefaults} (kept : store.Integrity)
    (fresh : store.Fresh) (stored : store.findTry caseId tryNo = some t)
    (current : store.Current caseId tryNo) (named : t.name ≠ [])
    (defaulted : Table.get? t.engine.tag config.engines = some defaults)
    (given : (Submission.unread payload).Gives (t.view (store.variablesOf caseId tryNo)).fields)
    (owned : store.findCase target = some owner) :
    Creatable config store target (.unread payload) (t.view (store.variablesOf caseId tryNo)).fields
      owner t.engine defaults := by
  have tidy := kept.tidy_variablesOf caseId tryNo
  have last : Variables.lastGiven (store.variablesOf caseId tryNo) =
      VariableMap.lookup (store.variablesOf caseId tryNo) :=
    funext (Variables.lastGiven_of_distinct tidy.distinct)
  have compiled := current t stored
  exact
    { given
      owned
      chosen := .inl rfl
      defaulted
      named := tidy.accepted
      shallow := by
        intro document container deep
        change Json.read (Template.fill (Variables.lastGiven (store.variablesOf caseId tryNo))
          t.queryParams) = _ at deep
        rw [last] at deep
        -- The same text was read when the args were compiled.
        have failed := compile_eq_error_iff.mpr ⟨document, container, deep, rfl⟩
        cases compiled.symm.trans failed
      nameable := .inl named
      copyable := by
        intro args comes
        change Args.Compiled _ (Template.fill (Variables.lastGiven (store.variablesOf caseId tryNo))
          t.queryParams) args at comes
        rw [last] at comes
        cases comes.unique (Try.compiled_of_compile compiled)
        exact (fresh.of_findTry stored).copied }

/-- What is made of the fields of a stored try is the try but for its case and its number, with the
same variables. -/
theorem eq_copy_of_madeOf {config : Config} {target : Int} {t copy : Try} {owner : Case}
    {vars copied : VariableMap} {defaults : EngineDefaults} (tidy : vars.Tidy) (named : t.name ≠ [])
    (compiled : t.compile vars none = .ok t.args)
    (made : MadeOf config target (t.view vars).fields owner t.engine defaults copy copied) :
    copy = { t with caseId := target, tryNo := owner.lastTry + 1 } ∧ copied = vars := by
  have same : copied = vars := by
    refine made.vars_tidy.ext tidy fun name => ?_
    rw [made.vars_last]
    exact Variables.lastGiven_of_distinct tidy.distinct name
  subst same
  have args_eq : copy.args = t.args := by
    have again := made.compiled
    rw [made.queryParams] at again
    exact again.unique (Try.compiled_of_compile compiled)
  refine ⟨?_, rfl⟩
  cases copy
  exact (Try.mk.injEq ..).mpr ⟨made.filed, made.counted, made.named t.name rfl named, made.searched,
    made.searchUrl, made.fieldSpec, made.queryParams, made.escapeQuery, made.numberOfRows, args_eq⟩

/-- After every history, what is shown of a stored try with a name, a number of rows that is not
negative and args that are what its template comes to can be submitted for a new try, in any case:
the new try is the stored one but for its case and its number, and is shown with the same variables
and args.  Such a try with at most 200 levels of args is shown unless a key of its args holds a
surrogate, which is refused. -/
theorem createTry_copies_what_is_shown (config : Config) (commands : List Command)
    {caseId tryNo : Int} {t : Try}
    (stored : (Command.reached config commands).store.findTry caseId tryNo = some t)
    (current : (Command.reached config commands).store.Current caseId tryNo) (named : t.name ≠ [])
    (counted : 0 ≤ t.numberOfRows) (nested : t.args.Nested 200) :
    let session := Command.reached config commands
    let vars := session.store.variablesOf caseId tryNo
    let view := t.view vars
    (view.hasBrokenKey = true → view.toJson = .error .unencodable) ∧
    (view.hasBrokenKey = false → ∃ payload, view.toJson = .ok payload ∧
      ∀ target owner, session.store.findCase target = some owner →
        let copy := { t with caseId := target, tryNo := owner.lastTry + 1 }
        let ended := (Command.createTry target (.unread payload)).run config session
        session.store.findTry target copy.tryNo = none ∧
        ended =
          (.ok (.view { view with tryNo := copy.tryNo }),
            { store := session.store.withTry copy vars
              pending := session.pending ++ [⟨target, copy.tryNo, t.engine⟩] }) ∧
        ended.2.store.viewOf target copy.tryNo = some { view with tryNo := copy.tryNo }) := by
  intro session vars view
  have shown : view.toJson = if view.hasBrokenKey then .error .unencodable else .ok view.shown :=
    View.toJson_eq nested (by decide)
  refine ⟨fun broken => by rw [shown, if_pos broken], fun whole => ⟨view.shown, ?_, ?_⟩⟩
  · rw [shown, whole]
    rfl
  intro target owner owned copy ended
  have kept : session.store.Integrity := integrity_reached config commands
  have fresh : session.store.Fresh := fresh_reached config commands
  obtain ⟨defaults, defaulted⟩ := (defaulted_reached config commands).of_findTry stored
  have ready := creatable_of_stored kept fresh stored current named defaulted
    (View.gives_shown counted) owned
  obtain ⟨made, copied, madeOf, missing, run_eq⟩ := ready.run_createTry kept
  obtain ⟨rfl, rfl⟩ := eq_copy_of_madeOf (kept.tidy_variablesOf caseId tryNo) named
    (current t stored) madeOf
  exact ⟨missing, run_eq, Command.viewOf_run kept (congrArg Prod.fst run_eq) rfl⟩

end

/-- A try is copied into another case, which has a try already. -/
theorem createTry_copies_what_is_shown_tuned :
    letI := Platform.usual
    let commands : List Command :=
      [.createCase (.str (Text.ofString "a")), .createCase (.str (Text.ofString "b")),
        .createTry 2 .absent,
        .createTry 1 (.unread (.obj
          [(Text.ofString "queryParams", .str (Text.ofString "q=\x7bwho\x7d")),
            (Text.ofString "curatorVars",
              .obj [(Text.ofString "who", .str (Text.ofString "x"))])]))]
    let session := Command.reached Config.standard commands
    let view : View :=
      { tryNo := 1
        name := Text.ofString "Try 1"
        queryParams := Text.ofString "q=\x7bwho\x7d"
        fieldSpec := (EngineDefaults.standard .solr).fieldSpec
        searchUrl := (EngineDefaults.standard .solr).searchUrl
        escapeQuery := true
        numberOfRows := 10
        engine := .solr
        args := .obj [(Text.ofString "q", .arr [.str (Text.ofString "x")])]
        curatorVars := [(Text.ofString "who", Text.ofString "x")] }
    session.store.viewOf 1 1 = some view ∧
    ∃ payload, view.toJson = .ok payload ∧
      ((Command.createTry 2 (.unread payload)).run Config.standard session).2.store.viewOf 2 2 =
        some { view with tryNo := 2 } := by
  let _ := Platform.usual
  intro commands session view
  let t : Try :=
    { caseId := 1
      tryNo := 1
      name := view.name
      engine := .solr
      searchUrl := view.searchUrl
      fieldSpec := view.fieldSpec
      queryParams := view.queryParams
      escapeQuery := true
      numberOfRows := 10
      args := view.args }
  have stored : session.store.findTry 1 1 = some t := by decide +kernel
  have vars : session.store.variablesOf 1 1 = view.curatorVars := by decide +kernel
  have nested : t.args.Nested 200 :=
    .obj (List.forall_mem_singleton.mpr (.arr (List.forall_mem_singleton.mpr (.str _))))
  have current : session.store.Current 1 1 := by
    intro found there
    cases stored.symm.trans there
    decide +kernel
  have owned : session.store.findCase 2 = some ⟨2, Text.ofString "b", 1⟩ := by decide +kernel
  obtain ⟨payload, shown, copies⟩ :=
    (createTry_copies_what_is_shown Config.standard commands stored current (by decide) (by decide)
      nested).2 (by decide +kernel)
  have copied := (copies 2 _ owned).2.2
  rw [vars] at shown copied
  refine ⟨(viewOf_of_findTry stored).trans ?_, payload, shown, copied⟩
  exact congrArg (fun held => some (t.view held)) vars

/-- A try whose document has a surrogate for a key is stored, but cannot be shown. -/
theorem view_not_shown_of_surrogate :
    letI := Platform.usual
    let commands : List Command :=
      [.createCase (.str (Text.ofString "a")),
        .createTry 1 (.unread (.obj
          [(Text.ofString "searchEngine", .str (Text.ofString "es")),
            (Text.ofString "queryParams", .str (Text.ofString "\x7b\"\\ud800\": 1\x7d"))]))]
    let store := (Command.reached Config.standard commands).store
    ∃ t owner, store.findCase 1 = some owner ∧ store.findTry 1 1 = some t ∧ t.name ≠ [] ∧
      0 ≤ t.numberOfRows ∧ t.args.Nested 200 ∧
      (t.view (store.variablesOf 1 1)).toJson = .error .unencodable := by
  let _ := Platform.usual
  intro commands store
  let t : Try :=
    { caseId := 1
      tryNo := 1
      name := Text.ofString "Try 1"
      engine := .es
      searchUrl := (EngineDefaults.standard .es).searchUrl
      fieldSpec := (EngineDefaults.standard .es).fieldSpec
      queryParams := Text.ofString "\x7b\"\\ud800\": 1\x7d"
      escapeQuery := true
      numberOfRows := 10
      args := .obj [([0xD800], .int 1)] }
  exact ⟨t, ⟨1, Text.ofString "a", 1⟩, by decide +kernel, by decide +kernel, by decide, by decide,
    .obj (List.forall_mem_singleton.mpr (.scalar _)), by decide +kernel⟩

end Lifecycle

end SearchTuning

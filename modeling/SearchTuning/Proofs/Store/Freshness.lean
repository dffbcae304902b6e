import SearchTuning.Proofs.Store.Integrity

/-!
# The args of stored tries

The args of a try are kept with it, and its variables in a table of their own.  Variables are
written first, and the args that go with them last, where they can be copied.  So what is kept is
what the template comes to now, unless that has too many levels to be saved.
-/

namespace SearchTuning

section

variable [Platform]

/-- The args that are kept with a try can be copied, and are what its template comes to with its
variables where that can be copied, and only there. -/
structure Try.Fresh (t : Try) (vars : VariableMap) : Prop where
  copied : t.args.levels ≤ Platform.copying
  compiled : ∃ args, t.compile vars none = .ok args ∧
    (t.args = args ↔ args.levels ≤ Platform.copying)

namespace Try

variable {t : Try} {vars : VariableMap} {args : Json}

theorem fresh_of_compile (compiled : t.compile vars none = .ok args)
    (fits : args.levels ≤ Platform.copying) : Fresh { t with args } vars :=
  ⟨fits, args, compiled, iff_of_true rfl fits⟩

/-- With variables for which its args cannot be saved a try keeps those that it has. -/
theorem Fresh.stale {old : VariableMap} (fresh : t.Fresh old)
    (compiled : t.compile vars none = .ok args) (deep : Platform.copying < args.levels) :
    t.Fresh vars := by
  refine ⟨fresh.copied, args, compiled, iff_of_false ?_ (Nat.not_le.mpr deep)⟩
  rintro rfl
  exact Nat.not_le.mpr deep fresh.copied

theorem Fresh.args_eq (fresh : t.Fresh vars) (compiled : t.compile vars none = .ok args)
    (fits : args.levels ≤ Platform.copying) : t.args = args := by
  obtain ⟨now, comes, same⟩ := fresh.compiled
  cases comes.symm.trans compiled
  exact same.mpr fits

end Try

end

namespace Store

open Lifecycle

section

variable [Platform]

/-! ## What every stored try has -/

/-- Every stored try has a property, together with the variables it has. -/
def Each (p : Try → VariableMap → Prop) (store : Store) : Prop :=
  ∀ entry ∈ store.tries, p entry.2 (store.variablesOf entry.1.1 entry.1.2)

namespace Each

variable {p : Try → VariableMap → Prop} {store : Store}

omit [Platform] in
theorem of_findTry (each : store.Each p) {caseId tryNo : Int} {t : Try}
    (found : store.findTry caseId tryNo = some t) : p t (store.variablesOf caseId tryNo) :=
  each _ (Table.mem_of_get? found)

omit [Platform] in
/-- Variables that are written for the try that stands there, if there is one. -/
theorem replaceVariables (each : store.Each p) (distinct : Table.Distinct store.tries)
    {caseId tryNo : Int} {vars : VariableMap}
    (here : ∀ t, store.findTry caseId tryNo = some t → p t vars) :
    (store.replaceVariables caseId tryNo vars).Each p := by
  rintro ⟨⟨c, n⟩, t⟩ member
  change p t ((store.replaceVariables caseId tryNo vars).variablesOf c n)
  rw [variablesOf_replaceVariables]
  split
  · next same =>
    obtain ⟨rfl, rfl⟩ := Prod.mk.inj same
    exact here t (Table.get?_of_mem distinct member)
  · exact each _ member

omit [Platform] in
/-- A try that is put there with new variables. -/
theorem putTry_replaceVariables (each : store.Each p) (distinct : Table.Distinct store.tries)
    {t : Try} {vars : VariableMap} (here : p t vars) :
    ((store.replaceVariables t.caseId t.tryNo vars).putTry t).Each p := by
  intro entry member
  have vars_eq := variablesOf_replaceVariables store t.caseId t.tryNo vars entry.1.1 entry.1.2
  change p entry.2 ((store.replaceVariables _ _ _).variablesOf _ _)
  rcases Table.mem_insert distinct member with rfl | ⟨there, other⟩
  · rw [vars_eq, if_pos rfl]
    exact here
  · rw [vars_eq, if_neg (Ne.symm other)]
    exact each entry there

omit [Platform] in
/-- A try that is put there again with its variables as they are. -/
theorem putTry (each : store.Each p) (distinct : Table.Distinct store.tries) {t : Try}
    (here : p t (store.variablesOf t.caseId t.tryNo)) : (store.putTry t).Each p := by
  intro entry member
  rcases Table.mem_insert distinct member with rfl | ⟨there, -⟩
  · exact here
  · exact each entry there

omit [Platform] in
theorem deleteTry (each : store.Each p) (caseId tryNo : Int) :
    (store.deleteTry caseId tryNo).2.Each p := by
  rw [Store.deleteTry]
  split
  · intro entry member
    obtain ⟨there, other⟩ := Table.mem_erase.mp member
    change p entry.2 ((Table.get? entry.1 (Table.erase _ _)).getD [])
    rw [Table.get?_erase_of_ne (Ne.symm other)]
    exact each entry there
  · exact each

section

variable (each : store.Each p) (kept : store.Integrity)

include each kept

/-- No try stands under the number of a draft, for its case has only just given it out. -/
theorem orphaned {config : Config} {caseId : Int} {submission : Submission}
    (draft : Draft config store caseId submission) : draft.orphaned.Each p := by
  have counted : draft.counted.Each p := each
  refine counted.replaceVariables kept.tries_distinct fun t found => ?_
  exact absurd rfl ((kept.counted_of_findTry found).ne_draft draft)

theorem stored {config : Config} {caseId : Int} {submission : Submission}
    (draft : Draft config store caseId submission) {args : Json}
    (here : p (draft.finished args) draft.vars.map) : (draft.stored args).Each p := by
  have counted : draft.counted.Each p := each
  exact counted.putTry_replaceVariables (t := draft.finished args) kept.tries_distinct here

variable {caseId tryNo : Int} {t : Try} (found : store.findTry caseId tryNo = some t)

include found

omit [Platform] in
theorem named {name : Text} (here : p { t with name } (store.variablesOf caseId tryNo)) :
    (store.putTry { t with name }).Each p := by
  obtain ⟨rfl, rfl⟩ := kept.findTry_filed found
  exact each.putTry (t := { t with name }) kept.tries_distinct here

omit [Platform] in
theorem tuned {vars : VariableMap} {args : Json} (here : p { t with args } vars) :
    ((store.replaceVariables caseId tryNo vars).putTry { t with args }).Each p := by
  obtain ⟨rfl, rfl⟩ := kept.findTry_filed found
  exact each.putTry_replaceVariables (t := { t with args }) kept.tries_distinct here

omit [Platform] in
theorem stale {vars : VariableMap} (here : p t vars) :
    (store.replaceVariables caseId tryNo vars).Each p := by
  refine each.replaceVariables kept.tries_distinct fun u there => ?_
  cases found.symm.trans there
  exact here

end

/-- What new tries have, and what tries keep when they are named or tuned, also where they cannot be
saved with the new args, all stored tries have after any operation. -/
theorem effect {config : Config} {command : Command} {before after : Session}
    (does : Effect config before command after) (kept : before.store.Integrity)
    (each : before.store.Each p)
    (made : ∀ {caseId : Int} {submission : Submission}
      (draft : Draft config before.store caseId submission) (args : Json),
      draft.blank.compile draft.vars.map none = .ok args → args.levels ≤ Platform.copying →
      p (draft.finished args) draft.vars.map)
    (named : ∀ t vars name, p t vars → p { t with name } vars)
    (tuned : ∀ t vars vars' args, p t vars → t.compile vars' none = .ok args →
      args.levels ≤ Platform.copying → p { t with args } vars')
    (stale : ∀ t vars vars' args, p t vars → t.compile vars' none = .ok args →
      Platform.copying < args.levels → p t vars') : after.store.Each p := by
  cases does with
  | nothing => exact each
  | caseMade name => exact each
  | numberLost draft => exact each
  | tryLost draft unsaved => exact each.orphaned kept draft
  | tryMade draft args compiled fits pending =>
    exact each.stored kept draft (made draft args compiled fits)
  | tryNamed command found name =>
    exact each.named kept found (named _ _ name (each.of_findTry found))
  | tryDeleted caseId tryNo => exact each.deleteTry caseId tryNo
  | tryTuned command found tidy compiled fits =>
    exact each.tuned kept found (tuned _ _ _ _ (each.of_findTry found) compiled fits)
  | tryStale command found tidy compiled deep =>
    exact each.stale kept found (stale _ _ _ _ (each.of_findTry found) compiled deep)

end Each

/-! ## Args -/

/-- The args of every stored try are fresh. -/
def Fresh (store : Store) : Prop := store.Each Try.Fresh

theorem fresh_empty : empty.Fresh := nofun

namespace Fresh

variable {store : Store}

theorem of_findTry (fresh : store.Fresh) {caseId tryNo : Int} {t : Try}
    (found : store.findTry caseId tryNo = some t) : t.Fresh (store.variablesOf caseId tryNo) :=
  Each.of_findTry fresh found

theorem effect {config : Config} {command : Command} {before after : Session}
    (does : Effect config before command after) (kept : before.store.Integrity)
    (fresh : before.store.Fresh) : after.store.Fresh := by
  refine Each.effect does kept fresh ?_ ?_ ?_ ?_
  · exact fun draft args compiled fits => Try.fresh_of_compile compiled fits
  · exact fun t vars name was => ⟨was.copied, was.compiled⟩
  · exact fun t vars vars' args was compiled fits => Try.fresh_of_compile compiled fits
  · exact fun t vars vars' args was compiled deep => was.stale compiled deep

end Fresh

/-- Throughout every history from the empty store, whatever its operations and however they end, the
template of a stored try comes to args with the variables that it has now, and these are the args
that are kept with it where they have not too many levels to be saved, and only there. -/
theorem runAll_args_fresh (config : Config) (commands : List Command) {caseId tryNo : Int} {t : Try}
    (stored :
      (Command.runAll config commands Session.start).2.store.findTry caseId tryNo = some t) :
    ∃ args,
      t.compile ((Command.runAll config commands Session.start).2.store.variablesOf caseId tryNo)
        none = .ok args ∧
      (t.args = args ↔ args.levels ≤ Platform.copying) := by
  have kept : (Command.runAll config commands Session.start).2.store.Integrity ∧
      (Command.runAll config commands Session.start).2.store.Fresh :=
    runAll_induction (motive := fun session => session.store.Integrity ∧ session.store.Fresh) config
      (fun _ _ _ does ⟨kept, fresh⟩ => ⟨kept.effect does, fresh.effect does kept⟩)
      commands ⟨integrity_empty, fresh_empty⟩
  exact (kept.2.of_findTry stored).compiled

end

/-- A try that is made, tuned and renamed. -/
theorem runAll_args_fresh_tuned :
    letI := Platform.usual
    let commands : List Command :=
      [.createCase (.str (Text.ofString "a")),
        .createTry 1 (.unread (.obj
          [(Text.ofString "queryParams", .str (Text.ofString "q=\x7bwho\x7d")),
            (Text.ofString "curatorVars",
              .obj [(Text.ofString "who", .str (Text.ofString "x"))])])),
        .setVariable 1 1 (.str (Text.ofString "who")) (.str (Text.ofString "y")),
        .setVariable 1 1 (.str (Text.ofString "who?")) (.str (Text.ofString "z")),
        .renameTry 1 1 (.str (Text.ofString "b"))]
    let store := (Command.runAll Config.standard commands Session.start).2.store
    let t : Try :=
      { caseId := 1
        tryNo := 1
        name := Text.ofString "b"
        engine := .solr
        searchUrl := (EngineDefaults.standard .solr).searchUrl
        fieldSpec := (EngineDefaults.standard .solr).fieldSpec
        queryParams := Text.ofString "q=\x7bwho\x7d"
        escapeQuery := true
        numberOfRows := 10
        args := .obj [(Text.ofString "q", .arr [.str (Text.ofString "y")])] }
    store.findTry 1 1 = some t ∧
    ∃ args, t.compile (store.variablesOf 1 1) none = .ok args ∧
      (t.args = args ↔ args.levels ≤ Platform.copying) :=
  have stored : _ = _ := by decide +kernel
  ⟨stored, @runAll_args_fresh Platform.usual _ _ _ _ _ stored⟩

/-- A document that is one variable is given a value of six hundred arrays, one in the other.  The
value can be read, but what is read cannot be copied.  The try keeps its old args under the new
value. -/
theorem args_stale_after_failed_save :
    letI := Platform.usual
    let nested : Text :=
      List.replicate 600 (CodePoint.ofChar '[') ++ List.replicate 600 (CodePoint.ofChar ']')
    let commands : List Command :=
      [.createCase (.str (Text.ofString "a")),
        .createTry 1 (.unread (.obj
          [(Text.ofString "searchEngine", .str (Text.ofString "es")),
            (Text.ofString "queryParams", .str (Text.ofString "\x7bx\x7d")),
            (Text.ofString "curatorVars",
              .obj [(Text.ofString "x", .str (Text.ofString "1"))])])),
        .setVariable 1 1 (.str (Text.ofString "x")) (.str nested)]
    let store := (Command.runAll Config.standard commands Session.start).2.store
    (store.findTry 1 1).map Try.args = some (.int 1) ∧
    store.variablesOf 1 1 = [(Text.ofString "x", nested)] ∧
    (store.findTry 1 1).map (fun t => t.compile (store.variablesOf 1 1) none) ≠
      some (.ok (.int 1)) := by
  decide +kernel

end Store

end SearchTuning

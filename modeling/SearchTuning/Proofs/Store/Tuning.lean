import SearchTuning.Proofs.Lifecycle.Failure
import SearchTuning.Proofs.Store.Views
import SearchTuning.Proofs.Tries.Taken

/-!
# The history of variables

A change of the variables of a try writes the try and its variables anew.  One that changes nothing
writes nothing, but it could as well: what it would write is what is there.  So only the last write
counts, and a try that is made and then tuned is a try that is made with the variables it has in the
end.
-/

namespace SearchTuning

namespace Store

/-- Writes a try with its variables. -/
def saveWith (t : Try) (vars : VariableMap) (store : Store) : Store :=
  (store.replaceVariables t.caseId t.tryNo vars).putTry t

section

variable (store : Store) (t : Try) (vars : VariableMap)

@[simp] theorem findTry_saveWith :
    (store.saveWith t vars).findTry t.caseId t.tryNo = some t :=
  findTry_putTry _ t

@[simp] theorem variablesOf_saveWith :
    (store.saveWith t vars).variablesOf t.caseId t.tryNo = vars :=
  (variablesOf_replaceVariables store t.caseId t.tryNo vars _ _).trans (if_pos rfl)

variable {vars}

/-- Of two writes the later one counts.  The variables stay where the first write has put them in
their table, unless it has put none: then there must have been none before. -/
theorem saveWith_saveWith
    (placed : vars ≠ [] ∨ Table.get? (t.caseId, t.tryNo) store.variableMaps = none) (args : Json)
    (later : VariableMap) :
    (store.saveWith t vars).saveWith { t with args } later =
      store.saveWith { t with args } later := by
  by_cases filled : vars = []
  · have absent := placed.resolve_left (not_not_intro filled)
    simp [saveWith, putTry, replaceVariables, filled, Table.erase_of_get? absent]
  · simp [saveWith, putTry, replaceVariables, filled]

variable {store t}

/-- Writing a try as it is, with its variables as they are, changes nothing. -/
theorem Integrity.saveWith_self (kept : store.Integrity)
    (found : store.findTry t.caseId t.tryNo = some t) :
    store.saveWith t (store.variablesOf t.caseId t.tryNo) = store := by
  have same_vars : store.replaceVariables t.caseId t.tryNo (store.variablesOf t.caseId t.tryNo) =
      store := by
    rw [Store.replaceVariables, variablesOf]
    cases held : Table.get? (t.caseId, t.tryNo) store.variableMaps with
    | none =>
      rw [Option.getD_none, if_pos rfl, Table.erase_of_get? held]
    | some vars =>
      have filled := (kept.variables_counted _ (Table.mem_of_get? held)).1
      rw [Option.getD_some, if_neg filled, Table.insert_of_get? held]
  rw [saveWith, same_vars, Store.putTry]
  rw [findTry] at found
  rw [Table.insert_of_get? found]

end

/-- The args that are kept with a try are what it comes to with its variables. -/
def Current [Platform] (caseId tryNo : Int) (store : Store) : Prop :=
  ∀ t, store.findTry caseId tryNo = some t →
    t.compile (store.variablesOf caseId tryNo) none = .ok t.args

/-- A try is current when it has been written with args that have just been compiled. -/
theorem current_saveWith [Platform] (store : Store) {t : Try} {vars : VariableMap}
    (compiled : t.compile vars none = .ok t.args) :
    (store.saveWith t vars).Current t.caseId t.tryNo := by
  intro u found
  cases (findTry_saveWith store t vars).symm.trans found
  rw [variablesOf_saveWith]
  exact compiled

end Store

/-! ## One change -/

namespace Lifecycle

open Program

variable [Platform]

/-- The try that a change of variables comes to, with args compiled anew, and its variables, unless
the args have too many levels to be saved. -/
def tuned (store : Store) (caseId tryNo : Int) (change : Variables → Except Error Variables) :
    Except Error (Try × VariableMap) := do
  let t ← heldTry store caseId tryNo
  let vars ← change ⟨store.variablesOf caseId tryNo, 0⟩
  let args ← t.compile vars.map none
  if args.levels ≤ Platform.copying then pure ({ t with args }, vars.map) else .error .outOfStack

section

variable {store : Store} {caseId tryNo : Int} {change : Variables → Except Error Variables}

theorem tuned_eq_ok {written : Try × VariableMap}
    (ended : tuned store caseId tryNo change = .ok written) :
    ∃ t vars args, heldTry store caseId tryNo = .ok t ∧
      change ⟨store.variablesOf caseId tryNo, 0⟩ = .ok vars ∧
      t.compile vars.map none = .ok args ∧ args.levels ≤ Platform.copying ∧
      written = ({ t with args }, vars.map) := by
  rw [tuned] at ended
  obtain ⟨t, held, ended⟩ := exists_of_bind_eq_ok ended
  obtain ⟨vars, changed, ended⟩ := exists_of_bind_eq_ok ended
  obtain ⟨args, compiled, ended⟩ := exists_of_bind_eq_ok ended
  split at ended
  · next fits =>
    cases ended
    exact ⟨t, vars, args, held, changed, compiled, fits, rfl⟩
  · cases ended

theorem tuned_eq_error {e : Error} (failed : tuned store caseId tryNo change = .error e) :
    heldTry store caseId tryNo = .error e ∨
      ∃ t, heldTry store caseId tryNo = .ok t ∧
        (change ⟨store.variablesOf caseId tryNo, 0⟩ = .error e ∨
          ∃ vars, change ⟨store.variablesOf caseId tryNo, 0⟩ = .ok vars ∧
            (t.compile vars.map none = .error e ∨
              e = .outOfStack ∧
                ∃ args, t.compile vars.map none = .ok args ∧ Platform.copying < args.levels)) := by
  rcases bind_eq_error failed with held | ⟨t, held, failed⟩
  · exact .inl held
  refine .inr ⟨t, held, ?_⟩
  rcases bind_eq_error failed with changed | ⟨vars, changed, failed⟩
  · exact .inl changed
  refine .inr ⟨vars, changed, ?_⟩
  rcases bind_eq_error failed with compiled | ⟨args, compiled, failed⟩
  · exact .inl compiled
  split at failed
  · cases failed
  · next deep =>
    cases failed
    exact .inr ⟨rfl, args, compiled, Nat.lt_of_not_le deep⟩

theorem tuned_eq (change : Variables → Except Error Variables) {t : Try}
    (held : heldTry store caseId tryNo = .ok t) {vars : Variables}
    (changed : change ⟨store.variablesOf caseId tryNo, 0⟩ = .ok vars) {args : Json}
    (compiled : t.compile vars.map none = .ok args) :
    tuned store caseId tryNo change =
      if args.levels ≤ Platform.copying then .ok ({ t with args }, vars.map)
      else .error .outOfStack := by
  rw [tuned, bind_of_eq_ok held, bind_of_eq_ok changed, bind_of_eq_ok compiled]
  rfl

/-- A change that is not counted is none, and the args of the try go with its variables: then it
makes no difference that the try is not compiled anew. -/
def Settled (store : Store) (caseId tryNo : Int) (change : Variables → Except Error Variables) :
    Prop :=
  ∀ vars, change ⟨store.variablesOf caseId tryNo, 0⟩ = .ok vars → vars.changes = 0 →
    vars.map = store.variablesOf caseId tryNo ∧ store.Current caseId tryNo

theorem settled_set (store : Store) (caseId tryNo : Int) (name value : Json) :
    Settled store caseId tryNo fun vars => vars.set name value :=
  fun _ changed none => absurd none (Variables.changes_set changed)

theorem settled_remove (current : store.Current caseId tryNo) (name : Text) :
    Settled store caseId tryNo fun vars => .ok (vars.remove name).2 := by
  intro vars changed none
  cases changed
  exact ⟨Variables.map_remove_of_changes none, current⟩

end

variable {session : Session} {caseId tryNo : Int} {change : Variables → Except Error Variables}

/-- A change always writes the try that it comes to, also where it is not counted. -/
theorem run_changeVariables_of_tuned (kept : session.store.Integrity)
    (settled : Settled session.store caseId tryNo change) {t : Try} {vars : VariableMap}
    (ended : tuned session.store caseId tryNo change = .ok (t, vars)) :
    (changeVariables caseId tryNo change).run session =
      (.ok (t.view vars), { session with store := session.store.saveWith t vars }) := by
  obtain ⟨t, vars, args, held, changed, compiled, fits, same⟩ := tuned_eq_ok ended
  cases same
  have found := findTry_of_heldTry held
  obtain ⟨rfl, rfl⟩ := kept.findTry_filed found
  have changed' := (kept.ofEntries_bind _ _ change).trans changed
  by_cases none : vars.changes = 0
  · obtain ⟨map_eq, current⟩ := settled vars changed none
    rw [run_changeVariables_of_none held changed' none]
    rw [map_eq] at compiled ⊢
    cases compiled.symm.trans (current t found)
    change (Except.ok (t.view (session.store.variablesOf t.caseId t.tryNo)), session) =
      (.ok (t.view _), { session with store := session.store.saveWith t _ })
    rw [kept.saveWith_self found]
  · exact run_changeVariables_of_fits held changed' none compiled fits

/-- A change that comes to nothing fails for that. -/
theorem run_changeVariables_eq_error (kept : session.store.Integrity) (fresh : session.store.Fresh)
    (settled : Settled session.store caseId tryNo change) {e : Error}
    (failed : tuned session.store caseId tryNo change = .error e) :
    ((changeVariables caseId tryNo change).run session).1 = .error e := by
  have given := kept.ofEntries_bind caseId tryNo change
  rcases tuned_eq_error failed with missing | ⟨t, held, unchanged | ⟨vars, changed, rest⟩⟩
  · rw [run_changeVariables_of_error missing]
  · rw [run_changeVariables_of_unchanged held (given.trans unchanged)]
  · have counted : vars.changes ≠ 0 := by
      intro none
      obtain ⟨map_eq, current⟩ := settled vars changed none
      have found := findTry_of_heldTry held
      have compiled := current t found
      rw [← map_eq] at compiled
      rcases rest with uncompiled | ⟨-, args, compiled', deep⟩
      · cases uncompiled.symm.trans compiled
      · cases compiled'.symm.trans compiled
        exact Nat.not_le.mpr deep (fresh.of_findTry found).copied
    rcases rest with uncompiled | ⟨rfl, args, compiled, deep⟩
    · rw [run_changeVariables_of_uncompiled held (given.trans changed) counted uncompiled]
    · rw [run_changeVariables_of_deep held (given.trans changed) counted compiled deep]

end Lifecycle

namespace Command

open Lifecycle

/-- An operation gives a value to a variable of a try, or takes one from it. -/
inductive Tunes (caseId tryNo : Int) : Command → Prop where
  | set (name value : Json) : Tunes caseId tryNo (.setVariable caseId tryNo name value)
  | remove (name : Text) : Tunes caseId tryNo (.removeVariable caseId tryNo name)

section

variable [Platform] {config : Config} {session : Session} {caseId tryNo : Int} {command : Command}
  {change : Variables → Except Error Variables}

theorem run_of_change (config : Config) (session : Session)
    (changes : command.change? = some ((caseId, tryNo), change)) :
    command.run config session =
      (((changeVariables caseId tryNo change).run session).1.map .view,
        ((changeVariables caseId tryNo change).run session).2) := by
  cases command with
  | setVariable c n name value =>
    cases changes
    exact Program.run_map session _ _
  | removeVariable c n name =>
    cases changes
    exact Program.run_map session _ _
  | _ => cases changes

/-- An operation that changes the variables of a try, and does not fail, writes it with the
variables that it comes to and with the args that they give. -/
theorem exists_of_run_change (kept : session.store.Integrity) (fresh : session.store.Fresh)
    (changes : command.change? = some ((caseId, tryNo), change))
    (settled : Settled session.store caseId tryNo change) {reply : Reply}
    (ended : (command.run config session).1 = .ok reply) :
    ∃ t vars args, session.store.findTry caseId tryNo = some t ∧
      change ⟨session.store.variablesOf caseId tryNo, 0⟩ = .ok vars ∧
      t.compile vars.map none = .ok args ∧ args.levels ≤ Platform.copying ∧
      command.run config session =
        (.ok (.view ({ t with args }.view vars.map)),
          { session with store := session.store.saveWith { t with args } vars.map }) := by
  rw [run_of_change config session changes] at ended ⊢
  cases outcome : tuned session.store caseId tryNo change with
  | error e =>
    rw [run_changeVariables_eq_error kept fresh settled outcome] at ended
    cases ended
  | ok written =>
    obtain ⟨t, vars, args, held, changed, compiled, fits, rfl⟩ := tuned_eq_ok outcome
    refine ⟨t, vars, args, findTry_of_heldTry held, changed, compiled, fits, ?_⟩
    rw [run_changeVariables_of_tuned kept settled outcome]
    rfl

/-- An operation that tunes a try, and does not fail, writes it with other variables and with the
args that they give. -/
theorem run_of_tunes (kept : session.store.Integrity) (fresh : session.store.Fresh)
    (current : session.store.Current caseId tryNo) (tunes : command.Tunes caseId tryNo)
    {reply : Reply} (ended : (command.run config session).1 = .ok reply) :
    ∃ t args vars, session.store.findTry caseId tryNo = some t ∧
      VariableMap.Tidy vars ∧ t.compile vars none = .ok args ∧ args.levels ≤ Platform.copying ∧
      command.run config session =
        (.ok (.view ({ t with args }.view vars)),
          { session with store := session.store.saveWith { t with args } vars }) := by
  have tidy := kept.tidy_variablesOf caseId tryNo
  cases tunes with
  | set name value =>
    obtain ⟨t, vars, args, found, changed, compiled, fits, ran⟩ :=
      exists_of_run_change kept fresh rfl (settled_set session.store caseId tryNo name value) ended
    exact ⟨t, args, vars.map, found, Variables.tidy_set tidy changed, compiled, fits, ran⟩
  | remove name =>
    obtain ⟨t, vars, args, found, changed, compiled, fits, ran⟩ :=
      exists_of_run_change kept fresh rfl (settled_remove current name) ended
    cases changed
    exact ⟨t, args, _, found, Variables.tidy_remove tidy name, compiled, fits, ran⟩

end

/-- Two runs end alike: with the same last result and in the same session. -/
def EndAlike (one two : List (Except Error Reply) × Session) : Prop :=
  one.1.getLast? = two.1.getLast? ∧ one.2 = two.2

end Command

/-! ## Two changes of one try -/

namespace Store

open Command Lifecycle

variable [Platform] {config : Config} {session : Session} {caseId tryNo : Int}

/-- A value that is given to a variable is written with the try. -/
theorem exists_of_run_setVariable (kept : session.store.Integrity) (fresh : session.store.Fresh)
    {name value : Json} {reply : Reply}
    (ended : ((Command.setVariable caseId tryNo name value).run config session).1 = .ok reply) :
    ∃ t text shown args, session.store.findTry caseId tryNo = some t ∧ name = .str text ∧
      VariableName.isValid text = true ∧ value.display = .ok shown ∧
      t.compile (VariableMap.set text shown (session.store.variablesOf caseId tryNo)) none =
        .ok args ∧
      (Command.setVariable caseId tryNo name value).run config session =
        (.ok (.view ({ t with args }.view
            (VariableMap.set text shown (session.store.variablesOf caseId tryNo)))),
          { session with
            store := session.store.saveWith { t with args }
              (VariableMap.set text shown (session.store.variablesOf caseId tryNo)) }) := by
  obtain ⟨t, vars, args, found, changed, compiled, -, ran⟩ :=
    exists_of_run_change kept fresh rfl (settled_set session.store caseId tryNo name value) ended
  obtain ⟨text, shown, rfl, valid, displayed, rfl⟩ := Variables.set_eq_ok changed
  exact ⟨t, text, shown, args, found, rfl, valid, displayed, compiled, ran⟩

theorem runAll_pair (config : Config) (first second : Command) (session : Session) :
    runAll config [first, second] session =
      ([(first.run config session).1, (second.run config (first.run config session).2).1],
        (second.run config (first.run config session).2).2) := rfl

/-- Of two values that are given to variables of a try both are written with it, and nothing
else. -/
theorem exists_of_runAll_setVariable (kept : session.store.Integrity) (fresh : session.store.Fresh)
    {name value other otherValue : Json}
    (succeeded : ∀ result ∈ (runAll config [.setVariable caseId tryNo name value,
      .setVariable caseId tryNo other otherValue] session).1, ∃ reply, result = .ok reply) :
    ∃ t text shown otherText otherShown args vars,
      session.store.findTry caseId tryNo = some t ∧
      name = .str text ∧ VariableName.isValid text = true ∧ value.display = .ok shown ∧
      other = .str otherText ∧ VariableName.isValid otherText = true ∧
      otherValue.display = .ok otherShown ∧
      vars = VariableMap.set otherText otherShown
        (VariableMap.set text shown (session.store.variablesOf caseId tryNo)) ∧
      t.compile vars none = .ok args ∧
      (runAll config [.setVariable caseId tryNo name value,
          .setVariable caseId tryNo other otherValue] session).2 =
        { session with store := session.store.saveWith { t with args } vars } ∧
      (runAll config [.setVariable caseId tryNo name value,
          .setVariable caseId tryNo other otherValue] session).1.getLast? =
        some (.ok (.view ({ t with args }.view vars))) := by
  rw [runAll_pair] at succeeded ⊢
  obtain ⟨⟨reply, ended⟩, succeeded⟩ := List.forall_mem_cons.mp succeeded
  obtain ⟨t, text, shown, args₁, found, rfl, valid, displayed, -, ran⟩ :=
    exists_of_run_setVariable kept fresh ended
  obtain ⟨rfl, rfl⟩ := kept.findTry_filed found
  have does := effect_run config session (.setVariable t.caseId t.tryNo (.str text) value)
  obtain ⟨⟨reply, ended⟩, -⟩ := List.forall_mem_cons.mp succeeded
  rw [ran] at does ended ⊢
  obtain ⟨u, otherText, otherShown, args, found', rfl, validOther, displayedOther, compiled, ran'⟩ :=
    exists_of_run_setVariable (kept.effect does) (fresh.effect does kept) ended
  cases (findTry_saveWith session.store { t with args := args₁ } _).symm.trans found'
  have vars_eq := variablesOf_saveWith session.store { t with args := args₁ }
    (VariableMap.set text shown (session.store.variablesOf t.caseId t.tryNo))
  rw [vars_eq] at compiled ran'
  refine ⟨t, text, shown, otherText, otherShown, args, _, found, rfl, valid, displayed, rfl, validOther,
    displayedOther, rfl, compiled, ?_, ?_⟩
  · rw [ran']
    have placed := VariableMap.set_ne_nil (session.store.variablesOf t.caseId t.tryNo) text shown
    have rewritten := saveWith_saveWith session.store { t with args := args₁ } (.inl placed) args
    exact congrArg (fun store => { session with store }) (rewritten _)
  · rw [ran']
    rfl

/-- Values of different variables can be given in any order. -/
theorem runAll_setVariable_comm (kept : session.store.Integrity) (fresh : session.store.Fresh)
    {name value other otherValue : Json} (apart : name ≠ other)
    (one : ∀ result ∈ (runAll config [.setVariable caseId tryNo name value,
      .setVariable caseId tryNo other otherValue] session).1, ∃ reply, result = .ok reply)
    (two : ∀ result ∈ (runAll config [.setVariable caseId tryNo other otherValue,
      .setVariable caseId tryNo name value] session).1, ∃ reply, result = .ok reply) :
    EndAlike
      (runAll config [.setVariable caseId tryNo name value,
        .setVariable caseId tryNo other otherValue] session)
      (runAll config [.setVariable caseId tryNo other otherValue,
        .setVariable caseId tryNo name value] session) := by
  obtain ⟨t, text, shown, otherText, otherShown, args, vars, found, rfl, valid, displayed, rfl,
    validOther, displayedOther, rfl, compiled, left, last⟩ := exists_of_runAll_setVariable kept fresh one
  obtain ⟨u, _, _, _, _, args', vars', found', same, -, displayedOther', same', -, displayed', rfl,
    compiled', left', last'⟩ := exists_of_runAll_setVariable kept fresh two
  cases same
  cases same'
  cases displayed.symm.trans displayed'
  cases displayedOther.symm.trans displayedOther'
  cases found.symm.trans found'
  have texts : text ≠ otherText := fun same => apart (congrArg Node.str same)
  have tidy := kept.tidy_variablesOf caseId tryNo
  rw [VariableMap.set_comm tidy valid validOther texts] at compiled left last
  cases compiled.symm.trans compiled'
  exact ⟨last.trans last'.symm, left.trans left'.symm⟩

/-- What a try comes to with its variables has too many levels to be saved. -/
def Unsavable (caseId tryNo : Int) (store : Store) : Prop :=
  ∃ t args, store.findTry caseId tryNo = some t ∧
    t.compile (store.variablesOf caseId tryNo) none = .ok args ∧ Platform.copying < args.levels

/-- A try was written with a variable more.  Taking the value from it leaves what there was before,
or it fails, because what there was before could not be saved. -/
theorem run_removeVariable_saveWith (config : Config) (kept : session.store.Integrity)
    (fresh : session.store.Fresh) {t : Try}
    (found : session.store.findTry t.caseId t.tryNo = some t) {args : Json} {name : Text}
    {vars : VariableMap} (filled : vars ≠ []) (compiled : t.compile vars none = .ok args)
    (erased : Table.erase name vars = session.store.variablesOf t.caseId t.tryNo) {after : Session}
    (after_eq : after = { session with store := session.store.saveWith { t with args } vars })
    (kept' : after.store.Integrity) (fresh' : after.store.Fresh) :
    (Command.removeVariable t.caseId t.tryNo name).run config after =
        (.ok (.view (t.view (session.store.variablesOf t.caseId t.tryNo))), session) ∨
      ((Command.removeVariable t.caseId t.tryNo name).run config after).1 = .error .outOfStack ∧
        session.store.Unsavable t.caseId t.tryNo := by
  have there : after.store.findTry t.caseId t.tryNo = some { t with args } := by
    rw [after_eq]
    exact findTry_saveWith session.store { t with args } vars
  have vars_eq : after.store.variablesOf t.caseId t.tryNo = vars := by
    rw [after_eq]
    exact variablesOf_saveWith session.store { t with args } vars
  have current : after.store.Current t.caseId t.tryNo := by
    rw [after_eq]
    exact current_saveWith session.store (t := { t with args }) compiled
  have settled := settled_remove current name
  have map_eq : (Variables.remove name ⟨after.store.variablesOf t.caseId t.tryNo, 0⟩).2.map =
      session.store.variablesOf t.caseId t.tryNo := by
    rw [Variables.map_remove, vars_eq, erased]
  obtain ⟨now, comes, same⟩ := (fresh.of_findTry found).compiled
  have recompiled : ({ t with args } : Try).compile
      (Variables.remove name ⟨after.store.variablesOf t.caseId t.tryNo, 0⟩).2.map none = .ok now := by
    rw [map_eq]
    exact comes
  have ends := tuned_eq (fun vars => .ok (vars.remove name).2) (kept'.heldTry_of_findTry there) rfl
    recompiled
  rw [run_of_change config after rfl]
  by_cases fits : now.levels ≤ Platform.copying
  · left
    have restored : after.store.saveWith t (session.store.variablesOf t.caseId t.tryNo) =
        session.store := by
      rw [after_eq]
      refine (saveWith_saveWith session.store { t with args } (.inl filled) t.args _).trans ?_
      exact kept.saveWith_self found
    rw [if_pos fits, map_eq, ← same.mpr fits] at ends
    rw [run_changeVariables_of_tuned kept' settled ends]
    change (Except.ok (Reply.view _), { after with store := after.store.saveWith t _ }) = _
    rw [restored, after_eq]
  · right
    rw [if_neg fits] at ends
    rw [run_changeVariables_eq_error kept' fresh' settled ends]
    exact ⟨rfl, t, now, found, comes, Nat.lt_of_not_le fits⟩

/-- A variable that a try has not is given a value, and the value is taken from it. -/
theorem run_removeVariable_of_set (kept : session.store.Integrity) (fresh : session.store.Fresh)
    {name : Text} (absent : VariableMap.lookup (session.store.variablesOf caseId tryNo) name = none)
    {value : Json} {reply : Reply}
    (ended : ((Command.setVariable caseId tryNo (.str name) value).run config session).1 =
      .ok reply) :
    let after := ((Command.setVariable caseId tryNo (.str name) value).run config session).2
    (∃ view, session.store.viewOf caseId tryNo = some view ∧
        (Command.removeVariable caseId tryNo name).run config after = (.ok (.view view), session)) ∨
      ((Command.removeVariable caseId tryNo name).run config after).1 = .error .outOfStack ∧
        session.store.Unsavable caseId tryNo := by
  intro after
  obtain ⟨t, _, shown, args, found, same, valid, -, compiled, ran⟩ :=
    exists_of_run_setVariable kept fresh ended
  cases same
  obtain ⟨rfl, rfl⟩ := kept.findTry_filed found
  have does := effect_run config session (.setVariable t.caseId t.tryNo (.str name) value)
  have filled := VariableMap.set_ne_nil (session.store.variablesOf t.caseId t.tryNo) name shown
  have erased := VariableMap.erase_set (kept.tidy_variablesOf t.caseId t.tryNo) valid absent shown
  refine (run_removeVariable_saveWith config kept fresh found filled compiled erased
    (congrArg Prod.snd ran) (kept.effect does) (fresh.effect does kept)).imp_left fun back => ?_
  exact ⟨_, viewOf_of_findTry found, back⟩

end Store

/-! ## A try that is made and then tuned -/

namespace Lifecycle

open Store

variable [Platform] {config : Config} {start : Session} {caseId : Int} {submission : Submission}

namespace Draft

variable (draft : Draft config start.store caseId submission)

/-- The session after the try has been made, with the given variables. -/
def made (args : Json) (vars : VariableMap) : Session :=
  { store := draft.counted.saveWith (draft.finished args) vars
    pending := start.pending ++ [⟨caseId, draft.tryNo, draft.engine⟩] }

/-- A new try that is tuned is a new try with other variables. -/
theorem run_of_tunes (kept : start.store.Integrity) {args : Json} {vars : VariableMap}
    (compiled : draft.blank.compile vars none = .ok args)
    (kept' : (draft.made args vars).store.Integrity) (fresh' : (draft.made args vars).store.Fresh)
    {command : Command} (tunes : command.Tunes caseId draft.tryNo) {reply : Reply}
    (ended : (command.run config (draft.made args vars)).1 = .ok reply) :
    ∃ args' vars', VariableMap.Tidy vars' ∧ draft.blank.compile vars' none = .ok args' ∧
      args'.levels ≤ Platform.copying ∧
      command.run config (draft.made args vars) =
        (.ok (.view ((draft.finished args').view vars')), draft.made args' vars') := by
  have current : (draft.made args vars).store.Current caseId draft.tryNo :=
    current_saveWith draft.counted (t := draft.finished args) compiled
  obtain ⟨t, args', vars', found, tidy, compiled', fits, ran⟩ :=
    Command.run_of_tunes kept' fresh' current tunes ended
  have there : (draft.made args vars).store.findTry caseId draft.tryNo = some (draft.finished args) :=
    findTry_saveWith draft.counted (draft.finished args) vars
  cases there.symm.trans found
  have absent : Table.get? ((draft.finished args).caseId, (draft.finished args).tryNo)
      draft.counted.variableMaps = none :=
    draft.get?_variableMaps kept
  have rewritten : (draft.made args vars).store.saveWith (draft.finished args') vars' =
      (draft.made args' vars').store :=
    saveWith_saveWith draft.counted (draft.finished args) (.inr absent) args' vars'
  refine ⟨args', vars', tidy, compiled', fits, ran.trans ?_⟩
  exact congrArg (fun store => (Except.ok (Reply.view ((draft.finished args').view vars')),
    { draft.made args vars with store })) rewritten

/-- However often a new try is tuned, it is a new try with the variables that it has in the end. -/
theorem runAll_of_tunes (kept : start.store.Integrity) {changes : List Command} {args : Json}
    {vars : VariableMap} (tidy : vars.Tidy) (compiled : draft.blank.compile vars none = .ok args)
    (fits : args.levels ≤ Platform.copying)
    (kept' : (draft.made args vars).store.Integrity) (fresh' : (draft.made args vars).store.Fresh)
    (tunes : ∀ change ∈ changes, change.Tunes caseId draft.tryNo)
    (succeeded : ∀ result ∈ (Command.runAll config changes (draft.made args vars)).1,
      ∃ reply, result = .ok reply) :
    ∃ args' vars', VariableMap.Tidy vars' ∧ draft.blank.compile vars' none = .ok args' ∧
      args'.levels ≤ Platform.copying ∧
      (Command.runAll config changes (draft.made args vars)).2 = draft.made args' vars' ∧
      (.ok (.view ((draft.finished args).view vars)) ::
          (Command.runAll config changes (draft.made args vars)).1).getLast? =
        some (.ok (.view ((draft.finished args').view vars'))) := by
  induction changes generalizing args vars with
  | nil => exact ⟨args, vars, tidy, compiled, fits, rfl, rfl⟩
  | cons change changes ih =>
    obtain ⟨tuning, tunes⟩ := List.forall_mem_cons.mp tunes
    rw [Command.runAll] at succeeded
    obtain ⟨⟨reply, ended⟩, succeeded⟩ := List.forall_mem_cons.mp succeeded
    obtain ⟨args₁, vars₁, tidy₁, compiled₁, fits₁, ran⟩ :=
      draft.run_of_tunes kept compiled kept' fresh' tuning ended
    have does := effect_run config (draft.made args vars) change
    rw [ran] at does succeeded
    obtain ⟨args₂, vars₂, tidy₂, compiled₂, fits₂, final, last⟩ :=
      ih tidy₁ compiled₁ fits₁ (kept'.effect does) (fresh'.effect does kept') tunes succeeded
    refine ⟨args₂, vars₂, tidy₂, compiled₂, fits₂, ?_, ?_⟩
    · rw [Command.runAll, ran]
      exact final
    · rw [Command.runAll, ran, List.getLast?_cons_cons]
      exact last

/-- The draft of a try with other variables. -/
def withVars {other : Submission} {given : Table Text Text} {vars : Variables}
    (read : other.forCreate = .ok { draft.fields with curatorVars := given })
    (accepted : Variables.ofEntries given = .ok vars) : Draft config start.store caseId other where
  fields := { draft.fields with curatorVars := given }
  owner := draft.owner
  engine := draft.engine
  defaults := draft.defaults
  vars := vars
  fields_read := read
  owner_found := draft.owner_found
  engine_chosen := draft.engine_chosen
  defaults_found := draft.defaults_found
  vars_accepted := accepted

theorem run_createTry_withVars {other : Submission} {given : Table Text Text} {vars : VariableMap}
    (read : other.forCreate = .ok { draft.fields with curatorVars := given })
    (accepted : Variables.ofEntries given = .ok ⟨vars, 0⟩) (nameable : draft.Nameable) {args : Json}
    (compiled : draft.blank.compile vars none = .ok args) (fits : args.levels ≤ Platform.copying) :
    (Command.createTry caseId other).run config start =
      (.ok (.view ((draft.finished args).view vars)), draft.made args vars) := by
  let new := draft.withVars read accepted
  have ran := CreateOutcome.eq_of_draft new (createTry_outcome config start caseId other)
    (.made new nameable args compiled fits)
  rw [Command.run, Command.program, Program.run_map, ran]
  rfl

end Draft

theorem exists_draft_of_createTry {reply : Reply}
    (ended : ((Command.createTry caseId submission).run config start).1 = .ok reply) :
    ∃ (draft : Draft config start.store caseId submission) (args : Json), draft.Nameable ∧
      draft.blank.compile draft.vars.map none = .ok args ∧ args.levels ≤ Platform.copying ∧
      (Command.createTry caseId submission).run config start =
        (.ok (.view ((draft.finished args).view draft.vars.map)), draft.made args draft.vars.map) := by
  have outcome := createTry_outcome config start caseId submission
  rw [Command.run, Command.program, Program.run_map] at ended ⊢
  generalize (createTry config caseId submission).run start = ran at ended outcome
  cases outcome with
  | made draft nameable args compiled fits => exact ⟨draft, args, nameable, compiled, fits, rfl⟩
  | _ => cases ended

end Lifecycle

namespace Command

open Lifecycle Store

variable [Platform]

/-- A try is made under a number, its variables are then changed any number of times, and nothing
fails. -/
structure MakesTuned (config : Config) (start : Session) (caseId tryNo : Int)
    (submission : Submission) (changes : List Command) : Prop where
  made : numberMade caseId (.createTry caseId submission)
    ((Command.createTry caseId submission).run config start).1 = some tryNo
  tunes : ∀ change ∈ changes, change.Tunes caseId tryNo
  succeeded : ∀ result ∈ (runAll config changes
    ((Command.createTry caseId submission).run config start).2).1, ∃ reply, result = .ok reply

variable {config : Config} {start : Session} {caseId tryNo : Int} {submission : Submission}

theorem MakesTuned.ends {changes : List Command} (kept : start.store.Integrity)
    (fresh : start.store.Fresh)
    (tuned : MakesTuned config start caseId tryNo submission changes) :
    ∃ (draft : Draft config start.store caseId submission) (args : Json) (vars : VariableMap),
      draft.Nameable ∧ draft.tryNo = tryNo ∧ vars.Tidy ∧
      draft.blank.compile vars none = .ok args ∧ args.levels ≤ Platform.copying ∧
      (runAll config (.createTry caseId submission :: changes) start).1.getLast? =
        some (.ok (.view ((draft.finished args).view vars))) ∧
      (runAll config (.createTry caseId submission :: changes) start).2 = draft.made args vars := by
  obtain ⟨_, view, same, ended, numbered⟩ := numberMade_eq_some tuned.made
  cases same
  obtain ⟨draft, args, nameable, compiled, fits, ran⟩ := exists_draft_of_createTry ended
  have does := effect_run config start (.createTry caseId submission)
  have succeeded := tuned.succeeded
  rw [ran] at ended does succeeded
  cases ended
  have tidy := (Variables.tidy_ofEntries draft.vars_accepted).1
  have number : draft.tryNo = tryNo := numbered
  obtain ⟨args', vars', tidy', compiled', fits', final, last⟩ := draft.runAll_of_tunes kept tidy
    compiled fits (kept.effect does) (fresh.effect does kept) (number ▸ tuned.tunes) succeeded
  refine ⟨draft, args', vars', nameable, number, tidy', compiled', fits', ?_, ?_⟩
  · rw [runAll, ran]
    exact last
  · rw [runAll, ran]
    exact final

/-- A new try that has been tuned is the new try with the variables that it has in the end. -/
theorem MakesTuned.endAlike {changes : List Command} (kept : start.store.Integrity)
    (fresh : start.store.Fresh)
    (tuned : MakesTuned config start caseId tryNo submission changes) {fields : TryFields}
    (read : submission.forCreate = .ok fields) {other : Submission} {given : Table Text Text}
    (read' : other.forCreate = .ok { fields with curatorVars := given })
    (distinct : Table.Distinct given)
    (same : ∀ name, Table.get? name given = Table.get? name
      ((runAll config (.createTry caseId submission :: changes) start).2.store.variablesOf caseId
        tryNo)) :
    EndAlike (runAll config (.createTry caseId submission :: changes) start)
      (runAll config [.createTry caseId other] start) := by
  obtain ⟨draft, args, vars, nameable, rfl, tidy, compiled, fits, last, final⟩ := tuned.ends kept fresh
  cases read.symm.trans draft.fields_read
  have vars_eq : (draft.made args vars).store.variablesOf caseId draft.tryNo = vars :=
    variablesOf_saveWith draft.counted (draft.finished args) vars
  rw [final, vars_eq] at same
  have ran := draft.run_createTry_withVars read' (Variables.ofEntries_of_lookup distinct tidy same)
    nameable compiled fits
  refine ⟨?_, ?_⟩
  · rw [last, runAll, ran]
    rfl
  · rw [final, runAll, ran]
    rfl

end Command

namespace Store

open Command Lifecycle

/-- After every history from the empty store: a try that is made and then tuned any number of times,
with nothing failing, ends with the view and in the session that making it at once with the
variables that it has in the end leads to.  So only these variables count, and not by which changes
they came about.  Values of different variables can be given in any order; and giving a value to a
variable that has none, and taking it again, leaves the try and all else as it was.  The value can
be taken again unless what the try came to before had too many levels to be saved. -/
theorem runAll_variable_history [Platform] (config : Config) (commands : List Command)
    (caseId tryNo : Int) :
    let start := Command.reached config commands
    (∀ submission fields changes,
      submission.forCreate = .ok fields →
      MakesTuned config start caseId tryNo submission changes →
      let ran := runAll config (.createTry caseId submission :: changes) start
      let vars := ran.2.store.variablesOf caseId tryNo
      (∀ other given, other.forCreate = .ok { fields with curatorVars := given } →
        Table.Distinct given → (∀ name, Table.get? name given = Table.get? name vars) →
        EndAlike ran (runAll config [.createTry caseId other] start)) ∧
      (∀ members, submission = .unread (.obj members) →
        EndAlike ran (runAll config [.createTry caseId (.unread (.obj (Table.insert
          TryField.curatorVars.camel (TryFields.objectOfVariables vars) members)))] start))) ∧
    (∀ submission first second,
      MakesTuned config start caseId tryNo submission first →
      MakesTuned config start caseId tryNo submission second →
      let one := runAll config (.createTry caseId submission :: first) start
      let two := runAll config (.createTry caseId submission :: second) start
      (∀ name, Table.get? name (one.2.store.variablesOf caseId tryNo) =
        Table.get? name (two.2.store.variablesOf caseId tryNo)) →
      EndAlike one two) ∧
    (∀ name value other otherValue, name ≠ other →
      let one := runAll config
        [.setVariable caseId tryNo name value, .setVariable caseId tryNo other otherValue] start
      let two := runAll config
        [.setVariable caseId tryNo other otherValue, .setVariable caseId tryNo name value] start
      (∀ result ∈ one.1 ++ two.1, ∃ reply, result = .ok reply) → EndAlike one two) ∧
    (∀ name value reply,
      Table.get? name (start.store.variablesOf caseId tryNo) = none →
      ((Command.setVariable caseId tryNo (.str name) value).run config start).1 = .ok reply →
      let both := runAll config
        [.setVariable caseId tryNo (.str name) value, .removeVariable caseId tryNo name] start
      EndAlike both (runAll config [.getTry caseId tryNo] start) ∨
        both.1.getLast? = some (.error .outOfStack) ∧ start.store.Unsavable caseId tryNo) := by
  intro start
  have kept : start.store.Integrity := integrity_reached config commands
  have fresh : start.store.Fresh := fresh_reached config commands
  refine ⟨?_, ?_, ?_, ?_⟩
  · intro submission fields changes read tuned ran vars
    have distinct : Table.Distinct vars :=
      ((kept.runAll config _).tidy_variablesOf caseId tryNo).distinct
    refine ⟨?_, ?_⟩
    · intro other given read' distinct same
      exact tuned.endAlike kept fresh read read' distinct same
    · rintro members rfl
      exact tuned.endAlike kept fresh read (Submission.forCreate_insert_curatorVars read vars)
        distinct fun _ => rfl
  · intro submission first second tunedFirst tunedSecond one two same
    have distinct : Table.Distinct (two.2.store.variablesOf caseId tryNo) :=
      ((kept.runAll config _).tidy_variablesOf caseId tryNo).distinct
    obtain ⟨draft, -⟩ := tunedFirst.ends kept fresh
    -- Both end as the try does that is made at once with the variables that they end with.
    let atOnce : Submission :=
      .checked { draft.fields with curatorVars := two.2.store.variablesOf caseId tryNo }
    have early : EndAlike one (runAll config [.createTry caseId atOnce] start) :=
      tunedFirst.endAlike kept fresh draft.fields_read rfl distinct fun name => (same name).symm
    have late : EndAlike two (runAll config [.createTry caseId atOnce] start) :=
      tunedSecond.endAlike kept fresh draft.fields_read rfl distinct fun _ => rfl
    exact ⟨early.1.trans late.1.symm, early.2.trans late.2.symm⟩
  · intro name value other otherValue apart one two succeeded
    have both := List.forall_mem_append.mp succeeded
    exact runAll_setVariable_comm kept fresh apart both.1 both.2
  · intro name value reply absent ended
    rw [runAll_pair]
    rcases run_removeVariable_of_set kept fresh absent ended with
      ⟨view, shown, back⟩ | ⟨failed, unsavable⟩
    · rw [back, runAll, run_getTry_of_viewOf config kept shown]
      exact .inl ⟨rfl, rfl⟩
    · exact .inr ⟨congrArg some failed, unsavable⟩

theorem exists_reply_of_toBool {result : Except Error Reply} (fine : result.toBool = true) :
    ∃ reply, result = .ok reply := by
  cases result with
  | error e => cases fine
  | ok reply => exact ⟨reply, rfl⟩

theorem exists_reply_of_all {results : List (Except Error Reply)}
    (all : results.all Except.toBool = true) : ∀ result ∈ results, ∃ reply, result = .ok reply :=
  fun result member => exists_reply_of_toBool (List.all_eq_true.mp all result member)

/-- A try that is made with one variable and tuned until it has another one, in two ways; and two
changes of the try that was there before. -/
theorem runAll_variable_history_tuned :
    letI := Platform.usual
    let who : Json := .str (Text.ofString "who")
    let n : Json := .str (Text.ofString "n")
    let start := Command.reached Config.standard
      [.createCase (.str (Text.ofString "a")), .createTry 1 .absent]
    let fields (vars : Json) : Record.Members :=
      [(Text.ofString "queryParams", .str (Text.ofString "q=\x7bwho\x7d&n=\x7bn\x7d")),
        (Text.ofString "curatorVars", vars)]
    let make : Command := .createTry 1 (.unread (.obj (fields (.obj [(Text.ofString "who", .int 1)]))))
    let first : List Command :=
      [.setVariable 1 2 n (.int 4), .setVariable 1 2 n (.int 5),
        .removeVariable 1 2 (Text.ofString "who")]
    let second : List Command :=
      [.removeVariable 1 2 (Text.ofString "who"), .removeVariable 1 2 (Text.ofString "who"),
        .setVariable 1 2 n (.str (Text.ofString "5"))]
    EndAlike (runAll Config.standard (make :: first) start)
      (runAll Config.standard [.createTry 1 (.unread (.obj (fields
        (.obj [(Text.ofString "n", .str (Text.ofString "5"))]))))] start) ∧
    EndAlike (runAll Config.standard (make :: first) start)
      (runAll Config.standard (make :: second) start) ∧
    EndAlike
      (runAll Config.standard [.setVariable 1 1 who .null, .setVariable 1 1 n (.int 5)] start)
      (runAll Config.standard [.setVariable 1 1 n (.int 5), .setVariable 1 1 who .null] start) ∧
    EndAlike
      (runAll Config.standard
        [.setVariable 1 1 who .null, .removeVariable 1 1 (Text.ofString "who")] start)
      (runAll Config.standard [.getTry 1 1] start) := by
  intro who n start fields make first second
  let setup : List Command := [.createCase (.str (Text.ofString "a")), .createTry 1 .absent]
  let submission : Submission := .unread (.obj (fields (.obj [(Text.ofString "who", .int 1)])))
  let fieldsRead : TryFields :=
    { TryFields.empty with
      queryParams := some (Text.ofString "q=\x7bwho\x7d&n=\x7bn\x7d")
      curatorVars := [(Text.ofString "who", Text.ofString "1")] }
  have read : @Submission.forCreate Platform.usual submission = .ok fieldsRead := by decide +kernel
  have tuned : ∀ changes, (∀ change ∈ changes, Tunes 1 2 change) →
      (@runAll Platform.usual Config.standard changes
        (@run Platform.usual Config.standard make start).2).1.all Except.toBool = true →
      @MakesTuned Platform.usual Config.standard (@reached Platform.usual Config.standard setup) 1 2
        submission changes := by
    intro changes tunes succeeded
    exact @MakesTuned.mk Platform.usual _ _ _ _ _ _ (by decide +kernel) tunes
      (exists_reply_of_all succeeded)
  have tunedFirst := tuned first (by simp [first, Tunes.set, Tunes.remove]) (by decide +kernel)
  have tunedSecond := tuned second (by simp [second, Tunes.set, Tunes.remove]) (by decide +kernel)
  -- The variables that both ways end with, said of the runs as the theorem writes them.
  have vars_first : (@runAll Platform.usual Config.standard (.createTry 1 submission :: first)
      (@reached Platform.usual Config.standard setup)).2.store.variablesOf 1 2 =
        [(Text.ofString "n", Text.ofString "5")] := by
    decide +kernel
  have vars_second : (@runAll Platform.usual Config.standard (.createTry 1 submission :: second)
      (@reached Platform.usual Config.standard setup)).2.store.variablesOf 1 2 =
        [(Text.ofString "n", Text.ofString "5")] := by
    decide +kernel
  obtain ⟨atOnce, only, -⟩ := @runAll_variable_history Platform.usual Config.standard setup 1 2
  obtain ⟨-, -, commuted, back⟩ := @runAll_variable_history Platform.usual Config.standard setup 1 1
  refine ⟨?_, ?_, ?_, ?_⟩
  · have ends := (atOnce submission fieldsRead first read tunedFirst).2 _ rfl
    rw [vars_first] at ends
    exact ends
  · have alike := only submission first second tunedFirst tunedSecond
    exact alike fun name => congrArg (Table.get? name) (vars_first.trans vars_second.symm)
  · have alike := commuted who .null n (.int 5) (by decide)
    exact alike (exists_reply_of_all (by decide +kernel))
  · have given : (@run Platform.usual Config.standard (.setVariable 1 1 who .null)
        (@reached Platform.usual Config.standard setup)).1.toBool = true := by
      decide +kernel
    obtain ⟨reply, ended⟩ := exists_reply_of_toBool given
    have restored := back (Text.ofString "who") .null reply (by decide +kernel) ended
    refine restored.resolve_right fun both => ?_
    have taken : (@runAll Platform.usual Config.standard
        [.setVariable 1 1 who .null, .removeVariable 1 1 (Text.ofString "who")]
        (@reached Platform.usual Config.standard setup)).1.getLast?.map Except.toBool = some true := by
      decide +kernel
    cases (congrArg (Option.map Except.toBool) both.1).symm.trans taken

end Store

end SearchTuning

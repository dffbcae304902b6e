import SearchTuning.Proofs.Lifecycle.Scope
import SearchTuning.Proofs.Store.Numbering

/-!
# What is held of one case

The three tables are shared by all cases, but each of their keys belongs to one.  An operation on a
case reads and writes only what is held of it: it goes the same way on that part alone, and leaves
the parts of all other cases as they were.
-/

namespace SearchTuning

namespace Store

/-- What a store holds of one case.  The number of the next case belongs to none. -/
def restrict (caseId : Int) (store : Store) : Store :=
  { cases := Table.onKeys (fun key => key = caseId) store.cases
    tries := Table.onKeys (fun key => key.1 = caseId) store.tries
    variableMaps := Table.onKeys (fun key => key.1 = caseId) store.variableMaps
    nextCaseId := store.nextCaseId }

section

variable {caseId : Int} (store : Store)

/-! ## Reading the part of a case -/

@[simp] theorem findCase_restrict :
    (store.restrict caseId).findCase caseId = store.findCase caseId := by
  simp [findCase, restrict, Table.get?_onKeys]

@[simp] theorem findTry_restrict (tryNo : Int) :
    (store.restrict caseId).findTry caseId tryNo = store.findTry caseId tryNo := by
  simp [findTry, restrict, Table.get?_onKeys]

@[simp] theorem variablesOf_restrict (tryNo : Int) :
    (store.restrict caseId).variablesOf caseId tryNo = store.variablesOf caseId tryNo := by
  simp [variablesOf, restrict, Table.get?_onKeys]

@[simp] theorem triesOf_restrict : (store.restrict caseId).triesOf caseId = store.triesOf caseId := by
  simp [triesOf, restrict, Table.onKeys, List.filter_filter]

/-! ## Writing to the part of a case -/

theorem incrementLastTry_restrict :
    (store.restrict caseId).incrementLastTry caseId =
      ((store.incrementLastTry caseId).1, (store.incrementLastTry caseId).2.restrict caseId) := by
  rw [incrementLastTry, findCase_restrict, incrementLastTry]
  cases store.findCase caseId with
  | none => rfl
  | some found => simp [restrict, Table.onKeys_insert]

theorem putTry_restrict {t : Try} (owned : t.caseId = caseId) :
    (store.restrict caseId).putTry t = (store.putTry t).restrict caseId := by
  simp [putTry, restrict, Table.onKeys_insert, owned]

theorem restrict_putTry_of_ne {t : Try} (apart : t.caseId ≠ caseId) :
    (store.putTry t).restrict caseId = store.restrict caseId := by
  simp [putTry, restrict, Table.onKeys_insert_of_not, apart]

/-- Whether a try can be copied does not depend on the store. -/
theorem saveTry_restrict [Platform] {t : Try} (owned : t.caseId = caseId) :
    (store.restrict caseId).saveTry t =
      ((store.saveTry t).1, (store.saveTry t).2.restrict caseId) := by
  rw [saveTry, putTry_restrict store owned, saveTry]
  split <;> rfl

theorem deleteTry_restrict (tryNo : Int) :
    (store.restrict caseId).deleteTry caseId tryNo =
      ((store.deleteTry caseId tryNo).1, (store.deleteTry caseId tryNo).2.restrict caseId) := by
  have there : Table.has (caseId, tryNo) (store.restrict caseId).tries =
      Table.has (caseId, tryNo) store.tries :=
    congrArg Option.isSome (store.findTry_restrict tryNo)
  rw [deleteTry, there, deleteTry]
  split
  · simp [restrict, Table.onKeys_erase]
  · rfl

theorem replaceVariables_restrict (tryNo : Int) (vars : VariableMap) :
    (store.restrict caseId).replaceVariables caseId tryNo vars =
      (store.replaceVariables caseId tryNo vars).restrict caseId := by
  by_cases none : vars = []
  · simp [replaceVariables, restrict, none, Table.onKeys_erase]
  · simp [replaceVariables, restrict, none, Table.onKeys_insert]

/-- A call about a case goes the same way on what is held of the case. -/
theorem answer_restrict [Platform] {call : Call} (about : call.caseId? = some caseId) :
    (store.restrict caseId).answer call =
      ((store.answer call).1, (store.answer call).2.restrict caseId) := by
  cases call with
  | createCase name => cases about
  | countVariables => cases about
  | getCase c =>
    cases about
    simp [answer]
  | incrementLastTry c =>
    cases about
    exact store.incrementLastTry_restrict
  | listTries c =>
    cases about
    simp [answer]
  | getTry c n =>
    cases about
    simp [answer]
  | saveTry t => exact store.saveTry_restrict (Option.some.inj about)
  | deleteTry c n =>
    cases about
    exact store.deleteTry_restrict n
  | getVariables c n =>
    cases about
    simp [answer]
  | replaceVariables c n vars =>
    cases about
    exact congrArg (Prod.mk ()) (store.replaceVariables_restrict n vars)

/-- A call about another case leaves what is held of the case as it was. -/
theorem restrict_answer_of_ne [Platform] {call : Call} {other : Int} (about : call.caseId? = some other)
    (apart : other ≠ caseId) : (store.answer call).2.restrict caseId = store.restrict caseId := by
  cases call with
  | createCase name => cases about
  | countVariables => cases about
  | incrementLastTry c =>
    cases about
    rw [answer, incrementLastTry]
    cases store.findCase other with
    | none => rfl
    | some found => simp [restrict, Table.onKeys_insert_of_not, apart]
  | saveTry t =>
    have owned : t.caseId = other := Option.some.inj about
    rw [answer, saveTry]
    split
    · exact store.restrict_putTry_of_ne (owned ▸ apart)
    · rfl
  | deleteTry c n =>
    cases about
    rw [answer, deleteTry]
    split
    · simp [restrict, Table.onKeys_erase, Table.erase_onKeys_of_not, apart]
    · rfl
  | replaceVariables c n vars =>
    cases about
    by_cases none : vars = []
    · simp [answer, replaceVariables, restrict, none, Table.onKeys_erase, Table.erase_onKeys_of_not,
        apart]
    · simp [answer, replaceVariables, restrict, none, Table.onKeys_insert_of_not, apart]
  | _ => rfl

/-- Making a case depends on the next number alone, and only the case that is made is told of it. -/
theorem restrict_createCase (name : Text) :
    (store.createCase name).2.restrict caseId =
      ((store.restrict caseId).createCase name).2.restrict caseId := by
  by_cases here : store.nextCaseId = caseId
  · simp [createCase, restrict, here, Table.onKeys_insert]
  · simp [createCase, restrict, here, Table.onKeys_insert_of_not]

end

/-! ## Filing -/

/-- Every try is filed under the case that it belongs to. -/
def Filed (store : Store) : Prop :=
  ∀ caseId tryNo t, store.findTry caseId tryNo = some t → t.caseId = caseId

theorem Integrity.filed {store : Store} (kept : store.Integrity) : store.Filed :=
  fun _ _ _ found => (kept.findTry_filed found).1

theorem Filed.answer [Platform] {store : Store} (filed : store.Filed) (call : Call) :
    call.Filed (store.answer call).1 ∧ (store.answer call).2.Filed := by
  cases call with
  | getTry c n => exact ⟨fun t found => filed c n t found, filed⟩
  | incrementLastTry c =>
    refine ⟨trivial, fun d n t found => filed d n t ?_⟩
    exact (findTry_incrementLastTry store c d n).symm.trans found
  | saveTry t =>
    refine ⟨trivial, ?_⟩
    rw [Store.answer, saveTry]
    split
    · intro c n u found
      change Table.get? (c, n) (Table.insert (t.caseId, t.tryNo) t store.tries) = some u at found
      rw [Table.get?_insert] at found
      split at found
      · next same =>
        cases found
        exact (Prod.mk.inj same).1
      · exact filed c n u found
    · exact filed
  | deleteTry c n =>
    refine ⟨trivial, ?_⟩
    rw [Store.answer, Store.deleteTry]
    split
    · intro d m u found
      change Table.get? (d, m) (Table.erase (c, n) store.tries) = some u at found
      rw [Table.get?_erase] at found
      split at found
      · cases found
      · exact filed d m u found
    · exact filed
  | _ => exact ⟨trivial, filed⟩

end Store

/-! ## Programs -/

/-- What a session holds of one case, with the events that are pending for it. -/
def Session.restrict (caseId : Int) (session : Session) : Session :=
  { store := session.store.restrict caseId
    pending := session.pending.filter fun event => event.caseId = caseId }

namespace Program

variable [Platform] {α : Type} {caseId other : Int} {post : α → Prop} {p : Program α}

/-- A program about a case goes the same way on what is held of the case. -/
theorem run_restrict (within : p.Within caseId post) (session : Session)
    (filed : session.store.Filed) :
    p.run (session.restrict caseId) = ((p.run session).1, (p.run session).2.restrict caseId) := by
  induction p generalizing session with
  | done result => rfl
  | call c next ih =>
    obtain ⟨about, rest⟩ := within
    obtain ⟨answered, after⟩ := filed.answer c
    have same := session.store.answer_restrict about
    rw [run, run, Session.restrict, same]
    exact ih _ (rest _ answered) { session with store := (session.store.answer c).2 } after
  | announce event next ih =>
    obtain ⟨about, rest⟩ := within
    have told := ih rest { session with pending := session.pending ++ [event] } filed
    simp only [Session.restrict, List.filter_append, about, List.filter_cons, decide_true, if_true,
      List.filter_nil] at told
    exact told

/-- A program about another case leaves what is held of the case as it was. -/
theorem restrict_run_of_ne (within : p.Within other post) (apart : other ≠ caseId)
    (session : Session) (filed : session.store.Filed) :
    (p.run session).2.restrict caseId = session.restrict caseId := by
  induction p generalizing session with
  | done result => rfl
  | call c next ih =>
    obtain ⟨about, rest⟩ := within
    obtain ⟨answered, after⟩ := filed.answer c
    have later := ih _ (rest _ answered) { session with store := (session.store.answer c).2 } after
    rw [run, later, Session.restrict, session.store.restrict_answer_of_ne about apart]
    rfl
  | announce event next ih =>
    obtain ⟨about, rest⟩ := within
    have later := ih rest { session with pending := session.pending ++ [event] } filed
    rw [run, later]
    simp [Session.restrict, about, apart]

end Program

/-! ## Histories -/

namespace Command

/-- Whether an operation tells of a case: it names the case, or makes one.  The count of all
variables tells of none. -/
def tellsOf (caseId : Int) : Command → Bool
  | .createCase _ => true
  | command => command.caseId? = some caseId

section

variable [Platform]

/-- The operations of a history that tell of a case, each with its result. -/
def resultsOn (config : Config) (caseId : Int) (commands : List Command) (session : Session) :
    List (Command × Except Error Reply) :=
  (commands.zip (runAll config commands session).1).filter fun ran => ran.1.tellsOf caseId

theorem resultsOn_cons (config : Config) (caseId : Int) (command : Command)
    (commands : List Command) (session : Session) :
    resultsOn config caseId (command :: commands) session =
      if command.tellsOf caseId = true then
        (command, (command.run config session).1) ::
          resultsOn config caseId commands (command.run config session).2
      else resultsOn config caseId commands (command.run config session).2 :=
  List.filter_cons

omit [Platform] in
theorem tellsOf_of_named {command : Command} {named : Int} (names : command.caseId? = some named)
    (caseId : Int) : command.tellsOf caseId = decide (named = caseId) := by
  cases command with
  | createCase name => cases names
  | _ => simp [tellsOf, names]

open Store Lifecycle

variable (config : Config) {caseId : Int} {one two : Session}

/-- Making a case goes the same way wherever the next number is the same. -/
theorem run_createCase_of_agree (agree : one.restrict caseId = two.restrict caseId) (name : Json) :
    ((createCase name).run config one).1 = ((createCase name).run config two).1 ∧
    ((createCase name).run config one).2.restrict caseId =
      ((createCase name).run config two).2.restrict caseId := by
  cases name with
  | str name =>
    have held : one.store.restrict caseId = two.store.restrict caseId :=
      congrArg Session.store agree
    have next := congrArg Store.nextCaseId held
    change one.store.nextCaseId = two.store.nextCaseId at next
    have made : (one.store.createCase name).2.restrict caseId =
        (two.store.createCase name).2.restrict caseId := by
      rw [one.store.restrict_createCase, two.store.restrict_createCase, held]
    refine ⟨?_, ?_⟩
    · change Except.ok (Reply.made ⟨one.store.nextCaseId, name, 0⟩) =
        .ok (.made ⟨two.store.nextCaseId, name, 0⟩)
      rw [next]
    · have pending := congrArg Session.pending agree
      exact congrArg₂ Session.mk made pending
  | _ => exact ⟨rfl, agree⟩

/-- An operation that names a case goes the same way wherever the same is held of the case. -/
theorem run_of_agree {command : Command} (named : command.caseId? = some caseId)
    (oneFiled : one.store.Filed) (twoFiled : two.store.Filed)
    (agree : one.restrict caseId = two.restrict caseId) :
    (command.run config one).1 = (command.run config two).1 ∧
    (command.run config one).2.restrict caseId = (command.run config two).2.restrict caseId := by
  have within := within_program config named
  have first := Program.run_restrict within one oneFiled
  have second := Program.run_restrict within two twoFiled
  rw [agree, second] at first
  obtain ⟨results, sessions⟩ := Prod.mk.inj first
  exact ⟨results.symm, sessions.symm⟩

/-- An operation that tells of a case goes the same way wherever the same is held of the case. -/
theorem run_of_tellsOf {command : Command} (tells : command.tellsOf caseId = true)
    (oneFiled : one.store.Filed) (twoFiled : two.store.Filed)
    (agree : one.restrict caseId = two.restrict caseId) :
    (command.run config one).1 = (command.run config two).1 ∧
    (command.run config one).2.restrict caseId = (command.run config two).2.restrict caseId := by
  cases named : command.caseId? with
  | some other =>
    rw [tellsOf_of_named named] at tells
    cases of_decide_eq_true tells
    exact run_of_agree config named oneFiled twoFiled agree
  | none =>
    cases command with
    | createCase name => exact run_createCase_of_agree config agree name
    | countVariables => cases tells
    | _ => cases named

/-- An operation that tells nothing of a case leaves what is held of the case as it was. -/
theorem restrict_run_of_not_tellsOf {command : Command} (silent : ¬ command.tellsOf caseId = true)
    (filed : one.store.Filed) :
    (command.run config one).2.restrict caseId = one.restrict caseId := by
  cases named : command.caseId? with
  | some other =>
    have apart : other ≠ caseId := by
      intro same
      exact silent ((tellsOf_of_named named caseId).trans (decide_eq_true same))
    exact Program.restrict_run_of_ne (within_program config named) apart one filed
  | none =>
    cases command with
    | createCase name => exact absurd rfl silent
    | countVariables => rfl
    | _ => cases named

/-- A history tells of a case what it tells without the operations that tell nothing of the case,
and leaves the same of it. -/
theorem runAll_filter_tellsOf (commands : List Command) (oneKept : one.store.Integrity)
    (twoKept : two.store.Integrity) (agree : one.restrict caseId = two.restrict caseId) :
    resultsOn config caseId commands one =
      resultsOn config caseId (commands.filter (tellsOf caseId)) two ∧
    (runAll config commands one).2.restrict caseId =
      (runAll config (commands.filter (tellsOf caseId)) two).2.restrict caseId := by
  -- The sessions differ from the start, and grow further apart where only the first run goes on: all
  -- that is carried along is that the same is held of the case.
  induction commands generalizing one two with
  | nil => exact ⟨rfl, agree⟩
  | cons command commands ih =>
    have oneKept' := oneKept.effect (effect_run config one command)
    rw [resultsOn_cons]
    by_cases tells : command.tellsOf caseId = true
    · have twoKept' := twoKept.effect (effect_run config two command)
      obtain ⟨result, left⟩ := run_of_tellsOf config tells oneKept.filed twoKept.filed agree
      obtain ⟨results, leftAll⟩ := ih oneKept' twoKept' left
      rw [List.filter_cons_of_pos tells, resultsOn_cons, if_pos tells, if_pos tells, result, results]
      exact ⟨rfl, leftAll⟩
    · have left := restrict_run_of_not_tellsOf config tells oneKept.filed
      rw [List.filter_cons_of_neg tells, if_neg tells]
      exact ih oneKept' twoKept (left.trans agree)

end

end Command

namespace Store

/-- Two histories with the same operations on a case, and the same that make cases, tell the same of
the case, the results of operations that fail included, and leave the same count of its tries, the
same tries and the same variables.  What else there is in either of them makes no difference. -/
theorem runAll_cases_isolated [Platform] (config : Config) (caseId : Int) (first second : List Command)
    (same : first.filter (Command.tellsOf caseId) = second.filter (Command.tellsOf caseId)) :
    let one := (Command.reached config first).store
    let two := (Command.reached config second).store
    Command.resultsOn config caseId first Session.start =
      Command.resultsOn config caseId second Session.start ∧
    one.findCase caseId = two.findCase caseId ∧
    one.triesOf caseId = two.triesOf caseId ∧
    ∀ tryNo, one.findTry caseId tryNo = two.findTry caseId tryNo ∧
      one.variablesOf caseId tryNo = two.variablesOf caseId tryNo := by
  intro one two
  have agree : Session.start.restrict caseId = Session.start.restrict caseId := rfl
  have fromOne := Command.runAll_filter_tellsOf config first integrity_empty integrity_empty agree
  have fromTwo := Command.runAll_filter_tellsOf config second integrity_empty integrity_empty agree
  rw [same] at fromOne
  have held : one.restrict caseId = two.restrict caseId :=
    congrArg Session.store (fromOne.2.trans fromTwo.2.symm)
  refine ⟨fromOne.1.trans fromTwo.1.symm, ?_, ?_, fun tryNo => ⟨?_, ?_⟩⟩
  · rw [← findCase_restrict, held, findCase_restrict]
  · rw [← triesOf_restrict, held, triesOf_restrict]
  · rw [← findTry_restrict, held, findTry_restrict]
  · rw [← variablesOf_restrict, held, variablesOf_restrict]

/-- Between two operations on the first case a try of the second one is made, tuned in vain and
deleted. -/
theorem runAll_cases_isolated_interleaved :
    letI := Platform.usual
    let make : Command := .createTry 1 .absent
    let rename : Command := .renameTry 1 1 (.str (Text.ofString "b"))
    let cases : List Command := [.createCase (.str []), .createCase (.str [])]
    let others : List Command :=
      [.createTry 2 .absent, .setVariable 2 1 (.str (Text.ofString "who?")) (.str []),
        .countVariables, .deleteTry 2 1]
    let first := cases ++ make :: others ++ [rename]
    let second := cases ++ [make, rename]
    first.filter (Command.tellsOf 1) = second.filter (Command.tellsOf 1) ∧
    Command.resultsOn Config.standard 1 first Session.start =
      Command.resultsOn Config.standard 1 second Session.start ∧
    (Command.reached Config.standard first).store.triesOf 1 =
      (Command.reached Config.standard second).store.triesOf 1 := by
  let _ := Platform.usual
  intro make rename cases others first second
  have same : first.filter (Command.tellsOf 1) = second.filter (Command.tellsOf 1) := rfl
  have isolated := runAll_cases_isolated Config.standard 1 first second same
  exact ⟨same, isolated.1, isolated.2.2.1⟩

end Store

end SearchTuning

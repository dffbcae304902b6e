import SearchTuning.Proofs.Lifecycle.Failure
import SearchTuning.Proofs.Store.Counting
import SearchTuning.Proofs.Store.Numbering

/-!
# Variables without a try

A try that cannot be saved leaves its variables behind, under a number that no try ever has.  No
other operation leaves any, and none takes them away.  But for them the three tables fit together.
-/

namespace SearchTuning

open Lifecycle

namespace Store

/-- Variables stand under a number without a try. -/
def Orphaned (store : Store) (caseId tryNo : Int) (vars : VariableMap) : Prop :=
  store.findTry caseId tryNo = none ∧ Table.get? (caseId, tryNo) store.variableMaps = some vars

section

variable {before after : Store} {caseId tryNo : Int} {vars : VariableMap}

theorem orphaned_congr (try_eq : after.findTry caseId tryNo = before.findTry caseId tryNo)
    (vars_eq : Table.get? (caseId, tryNo) after.variableMaps =
      Table.get? (caseId, tryNo) before.variableMaps) :
    after.Orphaned caseId tryNo vars ↔ before.Orphaned caseId tryNo vars := by
  rw [Orphaned, try_eq, vars_eq, Orphaned]

theorem not_orphaned {t : Try} (found : before.findTry caseId tryNo = some t) :
    ¬ before.Orphaned caseId tryNo vars := fun orphaned => by
  cases found.symm.trans orphaned.1

/-- Where only what stands under one number is written, and that is never without a try, nothing is
left without a try, and nothing is taken away. -/
theorem orphaned_of_written {c n : Int} (here : ∀ vars, ¬ before.Orphaned c n vars)
    (still : ∀ vars, ¬ after.Orphaned c n vars)
    (apart : (c, n) ≠ (caseId, tryNo) →
      after.findTry caseId tryNo = before.findTry caseId tryNo ∧
      Table.get? (caseId, tryNo) after.variableMaps =
        Table.get? (caseId, tryNo) before.variableMaps) :
    after.Orphaned caseId tryNo vars ↔ before.Orphaned caseId tryNo vars := by
  by_cases same : (c, n) = (caseId, tryNo)
  · cases same
    exact iff_of_false (still vars) (here vars)
  · exact orphaned_congr (apart same).1 (apart same).2

theorem Integrity.mem_orphans (kept : before.Integrity) :
    ((caseId, tryNo), vars) ∈ before.orphans ↔ before.Orphaned caseId tryNo vars := by
  rw [orphans, Table.onKeys, List.mem_filter, Orphaned, findTry, Table.has, Bool.not_eq_true',
    Option.isSome_eq_false_iff, Option.isNone_iff_eq_none, and_comm]
  refine and_congr_right fun _ => ⟨Table.get?_of_mem kept.variables_distinct, Table.mem_of_get?⟩

end

end Store

section

variable [Platform]

/-- A try is made that is not saved, and variables are left under its number. -/
inductive Command.Orphans (config : Config) (session : Session) :
    Command → Int → Int → VariableMap → Prop where
  | intro {caseId tryNo : Int} {submission : Submission} {vars : VariableMap}
      (draft : Draft config session.store caseId submission) (unsaved : draft.Unsaved)
      (numbered : draft.tryNo = tryNo) (written : draft.vars.map = vars) (some : vars ≠ []) :
      Orphans config session (.createTry caseId submission) caseId tryNo vars

namespace Store

variable {config : Config} {caseId tryNo : Int} {vars : VariableMap}

/-- An operation leaves variables with a try or without one as they were, unless it makes a try with
just this number and cannot save it. -/
theorem orphaned_effect {command : Command} {before after : Session}
    (does : Effect config before command after) (kept : before.store.Integrity)
    (saved : ∀ submission (draft : Draft config before.store caseId submission),
      command = .createTry caseId submission → draft.Unsaved → draft.tryNo ≠ tryNo) :
    after.store.Orphaned caseId tryNo vars ↔ before.store.Orphaned caseId tryNo vars := by
  cases does with
  | nothing => exact .rfl
  | caseMade name => exact .rfl
  | numberLost draft => exact .rfl
  | @tryLost c submission draft unsaved =>
    have other : (c, draft.tryNo) ≠ (caseId, tryNo) := by
      rintro ⟨⟩
      exact saved submission draft rfl unsaved rfl
    refine orphaned_congr rfl ?_
    exact (variableMaps_replaceVariables draft.counted _ _ _ _).trans (if_neg other)
  | @tryMade c submission draft args compiled fits pending =>
    have made : (draft.stored args).findTry c draft.tryNo = some (draft.finished args) :=
      findTry_putTry _ (draft.finished args)
    refine orphaned_of_written (fun vars orphaned => ?_) (fun vars => not_orphaned made) fun other => ?_
    · have counted := (kept.variables_counted _ (Table.mem_of_get? orphaned.2)).2
      exact counted.ne_draft draft rfl
    · exact ⟨Table.get?_insert_of_ne other _ _,
        (variableMaps_replaceVariables draft.counted _ _ _ _).trans (if_neg other)⟩
  | @tryNamed _ c n t found name =>
    obtain ⟨rfl, rfl⟩ := kept.findTry_filed found
    have named := findTry_putTry before.store { t with name }
    exact orphaned_of_written (fun vars => not_orphaned found) (fun vars => not_orphaned named)
      fun other => ⟨Table.get?_insert_of_ne other _ _, rfl⟩
  | tryDeleted c n =>
    rw [deleteTry]
    split
    · next there =>
      obtain ⟨t, found⟩ := Option.isSome_iff_exists.mp there
      refine orphaned_of_written (fun vars => not_orphaned found) (fun vars orphaned => ?_)
        fun other => ⟨Table.get?_erase_of_ne other _, Table.get?_erase_of_ne other _⟩
      have gone := orphaned.2
      rw [Table.get?_erase, if_pos rfl] at gone
      cases gone
    · exact .rfl
  | @tryTuned _ c n t found held tidy args compiled fits =>
    obtain ⟨rfl, rfl⟩ := kept.findTry_filed found
    have tuned := findTry_putTry (before.store.replaceVariables t.caseId t.tryNo held)
      { t with args }
    exact orphaned_of_written (fun vars => not_orphaned found) (fun vars => not_orphaned tuned)
      fun other => ⟨Table.get?_insert_of_ne other _ _,
        (variableMaps_replaceVariables before.store _ _ _ _).trans (if_neg other)⟩
  | @tryStale _ c n t found held tidy args compiled deep =>
    have still : (before.store.replaceVariables c n held).findTry c n = some t := found
    exact orphaned_of_written (fun vars => not_orphaned found) (fun vars => not_orphaned still)
      fun other =>
        ⟨rfl, (variableMaps_replaceVariables before.store _ _ _ _).trans (if_neg other)⟩

/-- The variables without a try are those that there were, and those that the operation leaves. -/
theorem orphaned_run {session : Session} (kept : session.store.Integrity) (command : Command) :
    (command.run config session).2.store.Orphaned caseId tryNo vars ↔
      session.store.Orphaned caseId tryNo vars ∨
        Command.Orphans config session command caseId tryNo vars := by
  by_cases lost : ∃ submission, ∃ draft : Draft config session.store caseId submission,
      command = .createTry caseId submission ∧ draft.Unsaved ∧ draft.tryNo = tryNo
  · obtain ⟨submission, draft, rfl, unsaved, rfl⟩ := lost
    have vacant : session.store.findTry caseId draft.tryNo = none := by
      cases found : session.store.findTry caseId draft.tryNo with
      | none => rfl
      | some t => exact absurd rfl ((kept.counted_of_findTry found).ne_draft draft)
    rw [(Leftover.uncreated draft unsaved).run]
    change draft.orphaned.Orphaned caseId draft.tryNo vars ↔ _
    have written : Table.get? (caseId, draft.tryNo) draft.orphaned.variableMaps =
        if draft.vars.map = [] then none else some draft.vars.map :=
      (variableMaps_replaceVariables draft.counted _ _ _ _).trans (if_pos rfl)
    constructor
    · rintro ⟨-, held⟩
      rw [written] at held
      split at held
      · cases held
      · next some =>
        cases held
        exact .inr (.intro draft unsaved rfl rfl some)
    · rintro (⟨-, held⟩ | ⟨other, -, -, rfl, some⟩)
      · have counted := (kept.variables_counted _ (Table.mem_of_get? held)).2
        exact absurd rfl (counted.ne_draft draft)
      · cases draft.unique other
        exact ⟨vacant, by rw [written, if_neg some]⟩
  · have does := effect_run config session command
    rw [orphaned_effect does kept fun submission draft is unsaved numbered =>
      lost ⟨submission, draft, is, unsaved, numbered⟩]
    refine ⟨.inl, ?_⟩
    rintro (before | ⟨draft, unsaved, numbered⟩)
    · exact before
    · exact absurd ⟨_, draft, rfl, unsaved, numbered⟩ lost

/-- The variables without a try after operations are those that there were, and those that one of
the operations has left. -/
theorem orphaned_runAll (commands : List Command) {session : Session}
    (kept : session.store.Integrity) :
    (Command.runAll config commands session).2.store.Orphaned caseId tryNo vars ↔
      session.store.Orphaned caseId tryNo vars ∨
        ∃ earlier command later, commands = earlier ++ command :: later ∧
          Command.Orphans config (Command.runAll config earlier session).2 command caseId tryNo
            vars := by
  induction commands generalizing session with
  | nil =>
    refine ⟨.inl, ?_⟩
    rintro (before | ⟨earlier, command, later, split, -⟩)
    · exact before
    · exact absurd split (by simp)
  | cons first commands ih =>
    have kept' := kept.effect (effect_run config session first)
    refine (ih kept').trans ?_
    rw [orphaned_run kept, or_assoc]
    refine or_congr_right ⟨?_, ?_⟩
    · rintro (now | ⟨earlier, command, later, rfl, orphans⟩)
      · exact ⟨[], first, commands, rfl, now⟩
      · exact ⟨first :: earlier, command, later, rfl, orphans⟩
    · rintro ⟨_ | ⟨c, earlier⟩, command, later, split, orphans⟩
      · cases split
        exact .inl orphans
      · cases split
        exact .inr ⟨earlier, command, later, rfl, orphans⟩

/-- Throughout every history from the empty store, whatever its operations and however they end, the
tables of the store fit together, and the count of variables is the sum over all tries of all cases,
but for variables under numbers without a try.  These are just what the making of tries that could
not be saved has left. -/
theorem runAll_integrity (config : Config) (commands : List Command) :
    let store := (Command.reached config commands).store
    store.Integrity ∧
    store.countVariables =
      ((store.cases.flatMap fun entry => store.triesOf entry.1).map fun t =>
        (store.variablesOf t.caseId t.tryNo).length).sum +
      (store.orphans.map fun entry => entry.2.length).sum ∧
    ∀ caseId tryNo vars, ((caseId, tryNo), vars) ∈ store.orphans ↔
      ∃ earlier command later, commands = earlier ++ command :: later ∧
        Command.Orphans config (Command.reached config earlier) command caseId tryNo vars := by
  have kept := integrity_reached config commands
  refine ⟨kept, countVariables_eq_sum kept, fun caseId tryNo vars => ?_⟩
  rw [kept.mem_orphans]
  have none : ¬ Session.start.store.Orphaned caseId tryNo vars := nofun
  exact (orphaned_runAll commands integrity_empty).trans (or_iff_right none)

end Store

end

namespace Store

/-- A document of six hundred arrays, one in the other, is submitted with a variable.  The document
can be read, but what is read cannot be copied.  The variable stays without a try. -/
theorem createTry_leaves_orphan :
    letI := Platform.usual
    let nested : Text :=
      List.replicate 600 (CodePoint.ofChar '[') ++ List.replicate 600 (CodePoint.ofChar ']')
    let commands : List Command :=
      [.createCase (.str (Text.ofString "a")),
        .createTry 1 (.unread (.obj
          [(Text.ofString "searchEngine", .str (Text.ofString "es")),
            (Text.ofString "queryParams", .str nested),
            (Text.ofString "curatorVars",
              .obj [(Text.ofString "x", .str (Text.ofString "1"))])]))]
    let store := (Command.reached Config.standard commands).store
    store.tries = [] ∧
    store.variableMaps = [((1, 1), [(Text.ofString "x", Text.ofString "1")])] ∧
    store.countVariables ≠
      ((store.cases.flatMap fun entry => store.triesOf entry.1).map fun t =>
        (store.variablesOf t.caseId t.tryNo).length).sum := by
  decide +kernel

end Store

end SearchTuning

import SearchTuning.Command

/-!
# The case that an operation is about

An operation that names a case calls the store about that case only, and announces events of that
case only.  A try that it saves is one that it has found in the case or has made for it.
-/

namespace SearchTuning

namespace Store.Call

/-- The case that a call is about, if it is about one. -/
def caseId? : Call → Option Int
  | .createCase _ | .countVariables => none
  | .getCase caseId | .incrementLastTry caseId | .listTries caseId | .getTry caseId _
  | .deleteTry caseId _ | .getVariables caseId _ | .replaceVariables caseId .. => some caseId
  | .saveTry t => some t.caseId

/-- A try that is found belongs to the case that was asked for. -/
def Filed : (call : Call) → call.Answer → Prop
  | .getTry caseId _, found => ∀ t, found = some t → t.caseId = caseId
  | _, _ => True

end Store.Call

namespace Program

variable {α β : Type} {caseId : Int} {post : α → Prop} {after : β → Prop}

/-- All calls and events of a program are about one case, as long as the store finds tries of the
case that it is asked for, and what the program comes to satisfies a condition. -/
def Within (caseId : Int) (post : α → Prop) : Program α → Prop
  | .done (.ok a) => post a
  | .done (.error _) => True
  | .call c next =>
      c.caseId? = some caseId ∧ ∀ answer, c.Filed answer → Within caseId post (next answer)
  | .announce event next => event.caseId = caseId ∧ Within caseId post next

theorem within_bind {p : Program α} {f : α → Program β} (first : p.Within caseId post)
    (later : ∀ a, post a → (f a).Within caseId after) : (p >>= f).Within caseId after := by
  change (p.andThen f).Within caseId after
  induction p with
  | done result =>
    cases result with
    | ok a => exact later a first
    | error e => trivial
  | call c next ih => exact ⟨first.1, fun answer filed => ih answer (first.2 answer filed)⟩
  | announce event next ih => exact ⟨first.1, ih first.2⟩

theorem within_pure {a : α} (holds : post a) : (pure a : Program α).Within caseId post := holds

theorem within_fail (e : Error) : (fail e : Program α).Within caseId post := trivial

theorem within_ofExcept (result : Except Error α) :
    (ofExcept result).Within caseId fun _ => True := by
  cases result <;> trivial

/-- A call about the case answers with what is filed under it. -/
theorem within_ask {c : Store.Call} (about : c.caseId? = some caseId) :
    (ask c).Within caseId c.Filed :=
  ⟨about, fun _ filed => filed⟩

theorem within_tell {event : Event} (about : event.caseId = caseId) :
    (tell event).Within caseId fun _ => True :=
  ⟨about, trivial⟩

theorem within_map {p : Program α} (f : α → β) (within : p.Within caseId post) :
    (f <$> p).Within caseId fun _ => True :=
  within_bind within fun _ _ => trivial

end Program

namespace Lifecycle

open Program

variable (caseId tryNo : Int)

theorem within_requireCase : (requireCase caseId).Within caseId fun _ => True := by
  refine within_bind (within_ask rfl) fun found _ => ?_
  cases found with
  | none => exact within_fail _
  | some found => exact within_pure trivial

theorem within_requireTry : (requireTry caseId tryNo).Within caseId fun t => t.caseId = caseId := by
  refine within_bind (within_requireCase caseId) fun _ _ => ?_
  refine within_bind (within_ask rfl) fun found filed => ?_
  cases found with
  | none => exact within_fail _
  | some t => exact within_pure (filed t rfl)

theorem within_nextTryNo : (nextTryNo caseId).Within caseId fun _ => True := by
  refine within_bind (within_ask rfl) fun counted _ => ?_
  cases counted with
  | none => exact within_fail _
  | some n => exact within_pure trivial

theorem within_save {t : Try} (owned : t.caseId = caseId) : (save t).Within caseId fun _ => True :=
  within_bind (within_ask (congrArg some owned)) fun _ _ => within_ofExcept _

theorem within_viewAll (tries : List Try) : (viewAll caseId tries).Within caseId fun _ => True := by
  induction tries with
  | nil => exact within_pure trivial
  | cons t tries ih =>
    refine within_bind (within_ask rfl) fun vars _ => ?_
    exact within_bind ih fun _ _ => within_pure trivial

theorem within_listTries : (listTries caseId).Within caseId fun _ => True := by
  refine within_bind (within_requireCase caseId) fun _ _ => ?_
  exact within_bind (within_ask rfl) fun tries _ => within_viewAll caseId tries

theorem within_getTry : (getTry caseId tryNo).Within caseId fun _ => True := by
  refine within_bind (within_requireTry caseId tryNo) fun t _ => ?_
  exact within_bind (within_ask rfl) fun vars _ => within_pure trivial

variable [Platform]

theorem within_createTry (config : Config) (submission : Submission) :
    (createTry config caseId submission).Within caseId fun _ => True := by
  refine within_bind (within_ofExcept _) fun fields _ => ?_
  refine within_bind (within_requireCase caseId) fun _ _ => ?_
  refine within_bind (within_ofExcept _) fun engine _ => ?_
  refine within_bind (within_ofExcept _) fun defaults _ => ?_
  refine within_bind (within_ofExcept _) fun vars _ => ?_
  refine within_bind (within_nextTryNo caseId) fun n _ => ?_
  refine within_bind (within_ofExcept _) fun name _ => ?_
  refine within_bind (within_ofExcept _) fun args _ => ?_
  refine within_bind (within_ask rfl) fun _ _ => ?_
  refine within_bind (within_save caseId rfl) fun _ _ => ?_
  exact within_bind (within_tell rfl) fun _ _ => within_pure trivial

omit [Platform] in
theorem within_nameTry (name : Option Text) :
    (nameTry caseId tryNo name).Within caseId fun _ => True := by
  refine within_bind (within_requireTry caseId tryNo) fun t owned => ?_
  have shown : ∀ renamed : Try, (ask (.getVariables caseId tryNo) >>= fun vars =>
      (pure (renamed.view vars) : Program View)).Within caseId fun _ => True := fun renamed =>
    within_bind (within_ask rfl) fun vars _ => within_pure trivial
  by_cases other : name.getD t.name ≠ t.name
  · simp only [if_pos other]
    exact within_bind (within_save caseId owned) fun _ _ => shown _
  · simp only [if_neg other]
    exact shown _

omit [Platform] in
theorem within_updateTry (submission : Submission) :
    (updateTry caseId tryNo submission).Within caseId fun _ => True :=
  within_bind (within_ofExcept _) fun name _ => within_nameTry caseId tryNo name

theorem within_renameTry (name : Json) :
    (renameTry caseId tryNo name).Within caseId fun _ => True :=
  within_bind (within_ofExcept _) fun _ _ => within_updateTry caseId tryNo _

omit [Platform] in
theorem within_deleteTry : (deleteTry caseId tryNo).Within caseId fun _ => True := by
  refine within_bind (within_requireCase caseId) fun _ _ => ?_
  refine within_bind (within_ask rfl) fun there _ => ?_
  cases there with
  | false => exact within_fail _
  | true => exact within_pure trivial

theorem within_changeVariables (change : Variables → Except Error Variables) :
    (changeVariables caseId tryNo change).Within caseId fun _ => True := by
  refine within_bind (within_requireTry caseId tryNo) fun t owned => ?_
  refine within_bind (within_ask rfl) fun current _ => ?_
  refine within_bind (within_ofExcept _) fun vars _ => ?_
  by_cases none : vars.changes = 0
  · rw [if_pos none]
    exact within_pure trivial
  · rw [if_neg none]
    refine within_bind (within_ofExcept _) fun args _ => ?_
    refine within_bind (within_ask rfl) fun _ _ => ?_
    exact within_bind (within_save caseId owned) fun _ _ => within_pure trivial

theorem within_compileLive (phrase : Option Text) :
    (compileLive caseId tryNo phrase).Within caseId fun _ => True := by
  refine within_bind (within_requireTry caseId tryNo) fun t _ => ?_
  refine within_bind (within_ask rfl) fun vars _ => ?_
  exact within_bind (within_ofExcept _) fun args _ => within_pure trivial

theorem within_previewArgs (phrase : Option Text) :
    (previewArgs caseId tryNo phrase).Within caseId fun _ => True :=
  within_bind (within_compileLive caseId tryNo phrase) fun _ _ => within_pure trivial

theorem within_preview (phrase : Option Text) :
    (preview caseId tryNo phrase).Within caseId fun _ => True := by
  refine within_bind (within_compileLive caseId tryNo phrase) fun live _ => ?_
  exact within_bind (within_ofExcept _) fun request _ => within_pure trivial

theorem within_buildRequest (phrase : Option Text) :
    (buildRequest caseId tryNo phrase).Within caseId fun _ => True :=
  within_bind (within_preview caseId tryNo phrase) fun _ _ => within_pure trivial

end Lifecycle

namespace Command

/-- The case that an operation names, if it names one. -/
def caseId? : Command → Option Int
  | .createCase _ | .countVariables => none
  | .getCase caseId | .listTries caseId | .getTry caseId _ | .createTry caseId _
  | .updateTry caseId .. | .renameTry caseId .. | .deleteTry caseId _ | .setVariable caseId ..
  | .removeVariable caseId .. | .previewArgs caseId .. | .preview caseId ..
  | .buildRequest caseId .. => some caseId

open Lifecycle Program

/-- An operation that names a case keeps to it. -/
theorem within_program [Platform] (config : Config) {command : Command} {caseId : Int}
    (named : command.caseId? = some caseId) :
    (command.program config).Within caseId fun _ => True := by
  cases command with
  | createCase name => cases named
  | countVariables => cases named
  | getCase c =>
    cases named
    exact within_map _ (within_ask rfl)
  | listTries c =>
    cases named
    exact within_map _ (within_listTries caseId)
  | getTry c n =>
    cases named
    exact within_map _ (within_getTry caseId n)
  | createTry c submission =>
    cases named
    exact within_map _ (within_createTry caseId config submission)
  | updateTry c n submission =>
    cases named
    exact within_map _ (within_updateTry caseId n submission)
  | renameTry c n name =>
    cases named
    exact within_map _ (within_renameTry caseId n name)
  | deleteTry c n =>
    cases named
    exact within_map _ (within_deleteTry caseId n)
  | setVariable c n name value =>
    cases named
    exact within_map _ (within_changeVariables caseId n _)
  | removeVariable c n name =>
    cases named
    exact within_map _ (within_changeVariables caseId n _)
  | previewArgs c n phrase =>
    cases named
    exact within_map _ (within_previewArgs caseId n phrase)
  | preview c n phrase =>
    cases named
    exact within_map _ (within_preview caseId n phrase)
  | buildRequest c n phrase =>
    cases named
    exact within_map _ (within_buildRequest caseId n phrase)

end Command

end SearchTuning

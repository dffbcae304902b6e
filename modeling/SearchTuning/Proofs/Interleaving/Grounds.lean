import SearchTuning.Command
import SearchTuning.Proofs.Store.History

/-!
# The grounds on which an operation writes

An operation writes a try or its variables only where it has found a try or has taken a number,
since it was begun.  Creating a try is four calls of a fixed order: it looks for the case, takes a
number, writes the variables under it, and saves the try.
-/

namespace SearchTuning

namespace Store

/-- The case and the number under which a call writes. -/
def Call.writtenKey? : Call → Option (Int × Int)
  | .saveTry t => some (t.caseId, t.tryNo)
  | .replaceVariables c n _ => some (c, n)
  | _ => none

/-- The number that a call took in a case. -/
def Record.number? (caseId : Int) : Record → Option Int
  | ⟨.incrementLastTry c, some n⟩ => if c = caseId then some n else none
  | _ => none

/-- Where a call found a try, or took a number. -/
def Record.known : Record → List (Int × Int)
  | ⟨.getTry c n, some t⟩ => [(c, n), (t.caseId, t.tryNo)]
  | ⟨.incrementLastTry c, some n⟩ => [(c, n)]
  | _ => []

/-- Where a try has been found, or a number taken. -/
def History.known (history : History) : List (Int × Int) := history.flatMap Record.known

theorem History.known_cons (record : Record) (history : History) :
    History.known (record :: history) = record.known ++ history.known := List.flatMap_cons

/-- A call writes only where a try has been found or a number taken. -/
def Grounded (history : History) (c : Call) : Prop :=
  ∀ key, c.writtenKey? = some key → key ∈ history.known

theorem grounded_of_reads {history : History} {c : Call} (reads : c.writtenKey? = none) :
    Grounded history c := by
  intro key writes
  rw [reads] at writes
  cases writes

end Store

open Store

namespace Program

variable {α β : Type} {good other : History → Call → Prop}
variable {post : History → α → Prop} {after : History → β → Prop} {history : History}

/-- Whatever the store answers, each call of a program is good after those before it, and so is what
the program comes to. -/
def Follows (good : History → Call → Prop) (post : History → α → Prop) : History → Program α → Prop
  | history, .done (.ok a) => post history a
  | _, .done (.error _) => True
  | history, .call c next =>
      good history c ∧ ∀ answer, Follows good post (⟨c, answer⟩ :: history) (next answer)
  | history, .announce _ next => Follows good post history next

theorem follows_bind {p : Program α} {f : α → Program β} (first : p.Follows good post history)
    (later : ∀ history a, post history a → (f a).Follows good after history) :
    (p >>= f).Follows good after history := by
  change (p.andThen f).Follows good after history
  induction p generalizing history with
  | done result =>
    cases result with
    | ok a => exact later history a first
    | error e => trivial
  | call c next ih => exact ⟨first.1, fun answer => ih answer (first.2 answer)⟩
  | announce event next ih => exact ih first

theorem follows_mono {p : Program α} (follows : p.Follows good post history)
    (weaker : ∀ history c, good history c → other history c) :
    p.Follows other (fun _ _ => True) history := by
  induction p generalizing history with
  | done result => cases result <;> trivial
  | call c next ih => exact ⟨weaker history c follows.1, fun answer => ih answer (follows.2 answer)⟩
  | announce event next ih => exact ih follows

theorem follows_pure {a : α} (holds : post history a) :
    (pure a : Program α).Follows good post history := holds

theorem follows_fail (e : Error) : (fail e : Program α).Follows good post history := trivial

theorem follows_ofExcept_bind {result : Except Error α} {f : α → Program β}
    (later : ∀ a, result = .ok a → (f a).Follows good after history) :
    (ofExcept result >>= f).Follows good after history := by
  cases result with
  | error e => trivial
  | ok a => exact later a rfl

theorem follows_ask {c : Call} (holds : good history c) :
    (ask c).Follows good (fun _ _ => True) history :=
  ⟨holds, fun _ => trivial⟩

theorem follows_ask_bind {c : Call} {f : c.Answer → Program β} (holds : good history c)
    (later : ∀ answer, (f answer).Follows good after (⟨c, answer⟩ :: history)) :
    (ask c >>= f).Follows good after history :=
  ⟨holds, later⟩

theorem follows_tell_bind {event : Event} {f : Unit → Program β}
    (later : (f ()).Follows good after history) :
    (tell event >>= f).Follows good after history :=
  later

theorem follows_map {p : Program α} (f : α → β) (follows : p.Follows good post history) :
    (f <$> p).Follows good (fun later b => ∃ a, b = f a ∧ post later a) history :=
  follows_bind follows fun _ a holds => ⟨a, rfl, holds⟩

end Program

/-! ## What each operation writes -/

namespace Lifecycle

open Program

/-- Saving is one call, after which a program goes on only if it did not fail. -/
theorem follows_save_bind {β : Type} {good : History → Call → Prop} {after : History → β → Prop}
    {history : History} {t : Try} {f : Unit → Program β} (holds : good history (.saveTry t))
    (later : ∀ answer, (f ()).Follows good after (⟨.saveTry t, answer⟩ :: history)) :
    (save t >>= f).Follows good after history := by
  refine follows_ask_bind holds fun answer => ?_
  exact follows_ofExcept_bind fun _ _ => later answer

variable (caseId tryNo : Int) (history : History)

/-- A try has been found in a case, under a number. -/
def Found (later : History) (t : Try) : Prop :=
  (caseId, tryNo) ∈ later.known ∧ (t.caseId, t.tryNo) ∈ later.known

variable {caseId tryNo} in
theorem Found.cons {later : History} {t : Try} (found : Found caseId tryNo later t)
    (record : Record) : Found caseId tryNo (record :: later) t := by
  rw [Found, History.known_cons]
  exact ⟨List.mem_append_right _ found.1, List.mem_append_right _ found.2⟩

theorem follows_requireCase :
    (requireCase caseId).Follows Grounded (fun _ _ => True) history := by
  refine follows_ask_bind (grounded_of_reads rfl) fun found => ?_
  cases found with
  | none => exact follows_fail _
  | some found => exact follows_pure trivial

theorem follows_requireTry :
    (requireTry caseId tryNo).Follows Grounded (Found caseId tryNo) history := by
  refine follows_bind (follows_requireCase caseId history) fun later _ _ => ?_
  refine follows_ask_bind (grounded_of_reads rfl) fun found => ?_
  cases found with
  | none => exact follows_fail _
  | some t =>
    refine follows_pure ⟨?_, ?_⟩
    · exact List.mem_cons_self
    · exact List.mem_cons_of_mem _ List.mem_cons_self

theorem follows_viewAll (tries : List Try) :
    (viewAll caseId tries).Follows Grounded (fun _ _ => True) history := by
  induction tries generalizing history with
  | nil => exact follows_pure trivial
  | cons t tries ih =>
    refine follows_ask_bind (grounded_of_reads rfl) fun vars => ?_
    exact follows_bind (ih _) fun _ _ _ => follows_pure trivial

theorem follows_listTries :
    (listTries caseId).Follows Grounded (fun _ _ => True) history := by
  refine follows_bind (follows_requireCase caseId history) fun later _ _ => ?_
  exact follows_ask_bind (grounded_of_reads rfl) fun tries => follows_viewAll caseId _ tries

theorem follows_getTry :
    (getTry caseId tryNo).Follows Grounded (fun _ _ => True) history := by
  refine follows_bind (follows_requireTry caseId tryNo history) fun later t _ => ?_
  exact follows_ask_bind (grounded_of_reads rfl) fun vars => follows_pure trivial

theorem follows_createCase [Platform] (name : Json) :
    (createCase name).Follows Grounded (fun _ _ => True) history := by
  cases name with
  | str name => exact follows_ask (grounded_of_reads rfl)
  | _ => exact follows_fail _

theorem follows_nameTry (name : Option Text) :
    (nameTry caseId tryNo name).Follows Grounded (fun _ _ => True) history := by
  refine follows_bind (follows_requireTry caseId tryNo history) fun later t found => ?_
  have shown : ∀ (renamed : Try) (later : History), (ask (.getVariables caseId tryNo) >>= fun vars =>
      (pure (renamed.view vars) : Program View)).Follows Grounded (fun _ _ => True) later :=
    fun renamed later => follows_ask_bind (grounded_of_reads rfl) fun vars => follows_pure trivial
  by_cases other : name.getD t.name ≠ t.name
  · simp only [if_pos other]
    refine follows_save_bind ?_ fun _ => shown _ _
    rintro key ⟨⟩
    exact found.2
  · simp only [if_neg other]
    exact shown _ _

theorem follows_updateTry (submission : Submission) :
    (updateTry caseId tryNo submission).Follows Grounded (fun _ _ => True) history :=
  follows_ofExcept_bind fun name _ => follows_nameTry caseId tryNo history name

theorem follows_renameTry [Platform] (name : Json) :
    (renameTry caseId tryNo name).Follows Grounded (fun _ _ => True) history :=
  follows_ofExcept_bind fun _ _ => follows_updateTry caseId tryNo history _

theorem follows_deleteTry :
    (deleteTry caseId tryNo).Follows Grounded (fun _ _ => True) history := by
  refine follows_bind (follows_requireCase caseId history) fun later _ _ => ?_
  refine follows_ask_bind (grounded_of_reads rfl) fun there => ?_
  cases there with
  | false => exact follows_fail _
  | true => exact follows_pure trivial

theorem follows_changeVariables [Platform] (change : Variables → Except Error Variables) :
    (changeVariables caseId tryNo change).Follows Grounded (fun _ _ => True) history := by
  refine follows_bind (follows_requireTry caseId tryNo history) fun later t found => ?_
  refine follows_ask_bind (grounded_of_reads rfl) fun current => ?_
  refine follows_ofExcept_bind fun vars _ => ?_
  by_cases none : vars.changes = 0
  · rw [if_pos none]
    exact follows_pure trivial
  · rw [if_neg none]
    refine follows_ofExcept_bind fun args _ => ?_
    refine follows_ask_bind ?_ fun _ => follows_save_bind ?_ fun _ => follows_pure trivial
    · rintro key ⟨⟩
      exact (found.cons _).1
    · rintro key ⟨⟩
      exact ((found.cons _).cons _).2

theorem follows_compileLive [Platform] (phrase : Option Text) :
    (compileLive caseId tryNo phrase).Follows Grounded (fun _ _ => True) history := by
  refine follows_bind (follows_requireTry caseId tryNo history) fun later t _ => ?_
  refine follows_ask_bind (grounded_of_reads rfl) fun vars => ?_
  exact follows_ofExcept_bind fun args _ => follows_pure trivial

theorem follows_preview [Platform] (phrase : Option Text) :
    (preview caseId tryNo phrase).Follows Grounded (fun _ _ => True) history := by
  refine follows_bind (follows_compileLive caseId tryNo history phrase) fun later live _ => ?_
  exact follows_ofExcept_bind fun request _ => follows_pure trivial

end Lifecycle

/-! ## Creating a try -/

/-- The calls of creating a try, each after those before it. -/
inductive Creating [Platform] (caseId : Int) : History → Call → Prop where
  | look : Creating caseId [] (.getCase caseId)
  | count (owner : Case) :
      Creating caseId [⟨.getCase caseId, some owner⟩] (.incrementLastTry caseId)
  | write (owner : Case) (tryNo : Int) (vars : VariableMap) :
      Creating caseId [⟨.incrementLastTry caseId, some tryNo⟩, ⟨.getCase caseId, some owner⟩]
        (.replaceVariables caseId tryNo vars)
  | save (owner : Case) (t : Try) (vars : VariableMap) (filed : t.caseId = caseId)
      (compiled : t.compile vars none = .ok t.args) :
      Creating caseId
        [⟨.replaceVariables caseId t.tryNo vars, ()⟩, ⟨.incrementLastTry caseId, some t.tryNo⟩,
          ⟨.getCase caseId, some owner⟩]
        (.saveTry t)

theorem Creating.grounded [Platform] {caseId : Int} {history : History} {c : Call}
    (creating : Creating caseId history c) : Grounded history c := by
  cases creating with
  | look => exact grounded_of_reads rfl
  | count owner => exact grounded_of_reads rfl
  | write owner tryNo vars =>
    rintro key ⟨⟩
    exact List.mem_cons_self
  | save owner t vars filed compiled =>
    subst filed
    rintro key ⟨⟩
    exact List.mem_cons_self

/-- The view of a try that was created shows the number that was taken for it. -/
def Created (caseId : Int) (history : History) (view : View) : Prop :=
  (⟨.incrementLastTry caseId, some view.tryNo⟩ : Record) ∈ history

namespace Lifecycle

open Program

theorem follows_createTry [Platform] (config : Config) (caseId : Int) (submission : Submission) :
    (createTry config caseId submission).Follows (Creating caseId) (Created caseId) [] := by
  have looked : (requireCase caseId).Follows (Creating caseId)
      (fun later _ => ∃ owner, later = [⟨.getCase caseId, some owner⟩]) [] := by
    refine follows_ask_bind .look fun found => ?_
    cases found with
    | none => exact follows_fail _
    | some owner => exact follows_pure ⟨owner, rfl⟩
  have numbered (owner : Case) : (nextTryNo caseId).Follows (Creating caseId)
      (fun later tryNo => later =
        [⟨.incrementLastTry caseId, some tryNo⟩, ⟨.getCase caseId, some owner⟩])
      [⟨.getCase caseId, some owner⟩] := by
    refine follows_ask_bind (.count owner) fun counted => ?_
    cases counted with
    | none => exact follows_fail _
    | some tryNo => exact follows_pure rfl
  refine follows_ofExcept_bind fun fields _ => follows_bind looked ?_
  rintro _ _ ⟨owner, rfl⟩
  refine follows_ofExcept_bind fun engine _ => ?_
  refine follows_ofExcept_bind fun defaults _ => ?_
  refine follows_ofExcept_bind fun vars _ => follows_bind (numbered owner) ?_
  rintro _ tryNo rfl
  refine follows_ofExcept_bind fun name _ => ?_
  refine follows_ofExcept_bind fun args compiled => ?_
  let t : Try := { newTry defaults engine fields caseId tryNo name with args }
  refine follows_ask_bind (.write owner tryNo vars.map) fun _ => ?_
  refine follows_save_bind (.save owner t vars.map rfl compiled) fun _ => ?_
  refine follows_tell_bind (follows_pure ?_)
  exact List.mem_cons_of_mem _ (List.mem_cons_of_mem _ List.mem_cons_self)

end Lifecycle

namespace Command

open Lifecycle Program

theorem follows_createTry [Platform] (config : Config) (caseId : Int) (submission : Submission) :
    ((createTry caseId submission).program config).Follows (Creating caseId)
      (fun history reply => ∃ view, reply = .view view ∧ Created caseId history view) [] :=
  follows_map _ (Lifecycle.follows_createTry config caseId submission)

/-- Every operation writes only where it has found a try or has taken a number. -/
theorem follows_program [Platform] (config : Config) (command : Command) :
    (command.program config).Follows Grounded (fun _ _ => True) [] := by
  have mapped {α : Type} {f : α → Reply} {p : Program α} {post : History → α → Prop}
      (follows : p.Follows Grounded post []) :
      (f <$> p).Follows Grounded (fun _ _ => True) [] :=
    follows_mono (follows_map f follows) fun _ _ => id
  cases command with
  | createCase name => exact mapped (follows_createCase [] name)
  | getCase c => exact mapped (follows_ask (grounded_of_reads rfl))
  | countVariables => exact mapped (follows_ask (grounded_of_reads rfl))
  | listTries c => exact mapped (follows_listTries c [])
  | getTry c n => exact mapped (follows_getTry c n [])
  | createTry c submission =>
    exact follows_mono (follows_createTry config c submission) fun _ _ => Creating.grounded
  | updateTry c n submission => exact mapped (follows_updateTry c n [] submission)
  | renameTry c n name => exact mapped (follows_renameTry c n [] name)
  | deleteTry c n => exact mapped (follows_deleteTry c n [])
  | setVariable c n name value => exact mapped (follows_changeVariables c n [] _)
  | removeVariable c n name => exact mapped (follows_changeVariables c n [] _)
  | previewArgs c n phrase => exact mapped (follows_map Prod.snd (follows_compileLive c n [] phrase))
  | preview c n phrase => exact mapped (follows_preview c n [] phrase)
  | buildRequest c n phrase => exact mapped (follows_map Prod.snd (follows_preview c n [] phrase))

end Command

end SearchTuning

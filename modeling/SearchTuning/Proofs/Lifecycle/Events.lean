import SearchTuning.Handover
import SearchTuning.Proofs.Lifecycle.Outcome
import SearchTuning.Proofs.Table

/-!
# Events

Creating a try announces one event, and no other operation announces any.  What has been announced
is handed on once, in order, whatever the sink makes of it.
-/

namespace SearchTuning

/-! ## Handing on -/

namespace Sink

variable {σ : Type} (sink : Sink σ)

/-- The state of a sink that is given events in order. -/
def told (events : List Event) (state : σ) : σ :=
  events.foldl (fun state event => (sink.receive event state).1) state

theorem told_append (first later : List Event) (state : σ) :
    sink.told (first ++ later) state = sink.told later (sink.told first state) := List.foldl_append

theorem handOn_eq (event : Event) (state : σ) :
    sink.handOn event state = (.ok (), (sink.receive event state).1) := by
  rw [handOn, emit]
  rcases sink.receive event state with ⟨after, failed⟩
  cases failed <;> rfl

/-- Every event is given to the sink, and no failure comes out. -/
theorem handOnAll_eq (events : List Event) (state : σ) :
    sink.handOnAll events state = (.ok (), sink.told events state) := by
  induction events generalizing state with
  | nil => rfl
  | cons event events ih =>
    simp only [handOnAll, handOn_eq, ih]
    rfl

end Sink

/-! ## Announcing -/

variable [Platform]

namespace Lifecycle

variable {config : Config} {session : Session} {caseId tryNo : Int}

omit [Platform] in
theorem CaseOutcome.pending_eq {ended : Except Error Case × Session}
    (outcome : CaseOutcome session ended) : ended.2.pending = session.pending := by
  cases outcome <;> rfl

theorem NameOutcome.pending_eq {read : Except Error (Option Text)}
    {ended : Except Error View × Session} (outcome : NameOutcome session caseId tryNo read ended) :
    ended.2.pending = session.pending := by
  cases outcome <;> rfl

omit [Platform] in
theorem DeleteOutcome.pending_eq {ended : Except Error Unit × Session}
    (outcome : DeleteOutcome session caseId tryNo ended) :
    ended.2.pending = session.pending := by
  cases outcome <;> rfl

theorem TuneOutcome.pending_eq {change : Variables → Except Error Variables}
    {ended : Except Error View × Session} (outcome : TuneOutcome session caseId tryNo change ended) :
    ended.2.pending = session.pending := by
  cases outcome <;> rfl

/-- A try that was created is stored, and its event is announced. -/
theorem CreateOutcome.announced {submission : Submission} {ended : Except Error View × Session}
    (outcome : CreateOutcome config session caseId submission ended) :
    match ended.1 with
    | .ok view =>
        ended.2.pending = session.pending ++ [⟨caseId, view.tryNo, view.engine⟩] ∧
        ∃ t, ended.2.store.findTry caseId view.tryNo = some t ∧
          t.caseId = caseId ∧ t.tryNo = view.tryNo ∧ t.engine = view.engine
    | .error _ => ended.2.pending = session.pending := by
  cases outcome with
  | refused e unready => rfl
  | unnamed draft unnameable => rfl
  | lost draft nameable e failed => rfl
  | orphaned draft unsaved => rfl
  | made draft nameable args compiled fits =>
    exact ⟨rfl, draft.finished args, Table.get?_insert_self _ _ _, rfl, rfl, rfl⟩

end Lifecycle

namespace Command

open Lifecycle

/-- The event that an operation announces when it comes to a result. -/
def event? : Command → Except Error Reply → Option Event
  | .createTry caseId _, .ok (.view view) => some ⟨caseId, view.tryNo, view.engine⟩
  | _, _ => none

/-- An operation announces its event, if it has one, and no other. -/
theorem pending_run (config : Config) (session : Session) (command : Command) :
    (command.run config session).2.pending =
      session.pending ++ (command.event? (command.run config session).1).toList := by
  have quiet {pending : List Event} (same : pending = session.pending) :
      pending = session.pending ++ (none : Option Event).toList :=
    same.trans (List.append_nil _).symm
  rw [run]
  cases command with
  | createTry caseId submission =>
    have announced := (createTry_outcome config session caseId submission).announced
    rw [program, Program.run_map]
    cases ended : ((Lifecycle.createTry config caseId submission).run session).1 with
    | error e =>
      rw [ended] at announced
      exact quiet announced
    | ok view =>
      rw [ended] at announced
      exact announced.1
  | createCase name =>
    rw [program, Program.run_map]
    exact quiet (createCase_outcome session name).pending_eq
  | updateTry caseId tryNo submission =>
    rw [program, Program.run_map]
    exact quiet (updateTry_outcome session caseId tryNo submission).pending_eq
  | renameTry caseId tryNo name =>
    rw [program, Program.run_map]
    exact quiet (renameTry_outcome session caseId tryNo name).pending_eq
  | deleteTry caseId tryNo =>
    rw [program, Program.run_map]
    exact quiet (deleteTry_outcome session caseId tryNo).pending_eq
  | setVariable caseId tryNo name value =>
    rw [program, Program.run_map]
    exact quiet (setVariable_outcome session caseId tryNo name value).pending_eq
  | removeVariable caseId tryNo name =>
    rw [program, Program.run_map]
    exact quiet (removeVariable_outcome session caseId tryNo name).pending_eq
  | getCase caseId => exact quiet rfl
  | countVariables => exact quiet rfl
  | listTries caseId =>
    rw [program, Program.run_map, run_listTries]
    exact quiet rfl
  | getTry caseId tryNo =>
    rw [program, Program.run_map, run_getTry]
    exact quiet rfl
  | previewArgs caseId tryNo phrase =>
    rw [program, Program.run_map, run_previewArgs]
    exact quiet rfl
  | preview caseId tryNo phrase =>
    rw [program, Program.run_map, run_preview]
    exact quiet rfl
  | buildRequest caseId tryNo phrase =>
    rw [program, Program.run_map, run_buildRequest]
    exact quiet rfl

/-- The view that creating a try comes to is that of a try that is stored. -/
theorem stored_of_createTry {config : Config} {session : Session} {caseId : Int}
    {submission : Submission} {reply : Reply}
    (created : ((createTry caseId submission).run config session).1 = .ok reply) :
    ∃ view, reply = .view view ∧
      ∃ t, ((createTry caseId submission).run config session).2.store.findTry caseId view.tryNo =
        some t ∧ t.caseId = caseId ∧ t.tryNo = view.tryNo ∧ t.engine = view.engine := by
  have announced := (createTry_outcome config session caseId submission).announced
  rw [run, program, Program.run_map] at created ⊢
  cases ended : ((Lifecycle.createTry config caseId submission).run session).1 with
  | error e =>
    rw [ended] at created
    cases created
  | ok view =>
    rw [ended] at created announced
    cases created
    exact ⟨view, rfl, announced.2⟩

end Command

/-! ## Runs -/

namespace Moment

/-- The event that was announced at a moment. -/
def event? (moment : Moment) : Option Event :=
  match moment.act, moment.outcome with
  | .operate command, .replied result => command.event? result
  | _, _ => none

/-- A try was created. -/
def Creates (moment : Moment) : Prop :=
  ∃ caseId submission reply,
    moment.act = .operate (.createTry caseId submission) ∧ moment.outcome = .replied (.ok reply)

/-- A try that was created and is stored, and the event that tells of it. -/
def Tells (moment : Moment) (event : Event) : Prop :=
  ∃ submission view t,
    moment.act = .operate (.createTry event.caseId submission) ∧
    moment.outcome = .replied (.ok (.view view)) ∧
    moment.session.store.findTry event.caseId view.tryNo = some t ∧
    event = ⟨t.caseId, t.tryNo, t.engine⟩

end Moment

namespace Act

variable {σ τ : Type} (config : Config) (sink : Sink σ)

/-- Waiting does not fail, and leaves the session and the sink as handing on leaves them. -/
theorem run_waitForEvents (session : Session) (state : σ) :
    Act.waitForEvents.run config sink session state =
      (.waited (.ok ()), session.waitForEvents sink state) := by
  rw [run, Sink.handOnAll_eq]
  rfl

/-- What an act announces is still to be handed on, or the sink has been told. -/
theorem told_run (act : Act) (session : Session) (state : σ) :
    let (outcome, after, handed) := act.run config sink session state
    sink.told after.pending handed =
      sink.told (session.pending ++ (Moment.event? ⟨act, outcome, after⟩).toList) state := by
  cases act with
  | operate command => exact congrArg (sink.told · state) (command.pending_run config session)
  | waitForEvents =>
    rw [run_waitForEvents]
    exact congrArg (sink.told · state) (List.append_nil _).symm

/-- What acts announce is still to be handed on, or the sink has been told, in the same order. -/
theorem told_runAll (acts : List Act) (session : Session) (state : σ) :
    let (moments, after, handed) := Act.runAll config sink acts session state
    sink.told after.pending handed =
      sink.told (session.pending ++ moments.filterMap Moment.event?) state := by
  induction acts generalizing session state with
  | nil => exact congrArg (sink.told · state) (List.append_nil _).symm
  | cons act acts ih =>
    have first := told_run config sink act session state
    rw [runAll]
    generalize act.run config sink session state = ran at first
    obtain ⟨outcome, after, handed⟩ := ran
    refine (ih after handed).trans ?_
    rw [Sink.told_append, first, ← Sink.told_append, List.append_assoc, List.filterMap_cons]
    cases Moment.event? ⟨act, outcome, after⟩ <;> rfl

/-- Acts come to the same with every sink, whatever it fails on. -/
theorem runAll_congr (other : Sink τ) (acts : List Act) (session : Session) (state : σ)
    (begun : τ) :
    let (moments, after, _) := Act.runAll config sink acts session state
    ∃ handed, Act.runAll config other acts session begun = (moments, after, handed) := by
  induction acts generalizing session state begun with
  | nil => exact ⟨begun, rfl⟩
  | cons act acts ih =>
    have same : ∃ handed, act.run config other session begun =
        ((act.run config sink session state).1, (act.run config sink session state).2.1, handed) := by
      cases act with
      | operate command => exact ⟨begun, rfl⟩
      | waitForEvents => exact ⟨_, by rw [run_waitForEvents, run_waitForEvents]; rfl⟩
    obtain ⟨handed, same⟩ := same
    obtain ⟨last, later⟩ := ih (act.run config sink session state).2.1
      (act.run config sink session state).2.2 handed
    refine ⟨last, ?_⟩
    rw [runAll, same]
    simp only [later]
    rfl

/-- A moment at which a try was created announces one event, and an event that is announced tells of
such a moment. -/
theorem tells_run (act : Act) (session : Session) (state : σ) :
    let (outcome, after, _) := act.run config sink session state
    let moment : Moment := ⟨act, outcome, after⟩
    (moment.Creates → moment.event?.isSome) ∧
    ∀ event, moment.event? = some event → moment.Tells event := by
  cases act with
  | waitForEvents =>
    refine ⟨?_, fun event announced => ?_⟩
    · rintro ⟨caseId, submission, reply, is, -⟩
      cases is
    · cases announced
  | operate command =>
    refine ⟨?_, fun event announced => ?_⟩
    · rintro ⟨caseId, submission, reply, is, came⟩
      cases is
      obtain ⟨view, rfl, -⟩ := Command.stored_of_createTry (Act.Outcome.replied.inj came)
      rw [Moment.event?, came]
      rfl
    · change command.event? (command.run config session).1 = some event at announced
      unfold Command.event? at announced
      split at announced
      · next caseId submission view came =>
        cases announced
        obtain ⟨_, same, t, found, filed, numbered, engine⟩ := Command.stored_of_createTry came
        cases same
        exact ⟨submission, view, t, rfl, congrArg _ came, found, by rw [filed, numbered, engine]⟩
      · cases announced

theorem tells_runAll (acts : List Act) (session : Session) (state : σ) :
    ∀ moment ∈ (Act.runAll config sink acts session state).1,
      (moment.Creates → moment.event?.isSome) ∧
      ∀ event, moment.event? = some event → moment.Tells event := by
  induction acts generalizing session state with
  | nil => exact fun moment member => absurd member List.not_mem_nil
  | cons act acts ih =>
    intro moment member
    rcases List.mem_cons.mp member with rfl | later
    · exact tells_run config sink act session state
    · exact ih _ _ moment later

/-- The moments of a run are those of its acts, and no wait among them failed. -/
theorem acts_runAll (acts : List Act) (session : Session) (state : σ) :
    let (moments, _, _) := Act.runAll config sink acts session state
    moments.map Moment.act = acts ∧
    ∀ moment ∈ moments, ∀ result, moment.outcome = .waited result → result = .ok () := by
  induction acts generalizing session state with
  | nil => exact ⟨rfl, fun moment member => absurd member List.not_mem_nil⟩
  | cons act acts ih =>
    obtain ⟨same, waits⟩ := ih (act.run config sink session state).2.1
      (act.run config sink session state).2.2
    refine ⟨congrArg (act :: ·) same, fun moment member result waited => ?_⟩
    rcases List.mem_cons.mp member with rfl | later
    · cases act with
      | operate command => cases waited
      | waitForEvents =>
        change (Act.run config sink .waitForEvents session state).1 = _ at waited
        rw [run_waitForEvents] at waited
        cases waited
        rfl
    · exact waits moment later result waited

/-- After a wait nothing is left to hand on. -/
theorem pending_runAll_wait (acts : List Act) (session : Session) (state : σ) :
    (Act.runAll config sink (acts ++ [.waitForEvents]) session state).2.1.pending = [] := by
  induction acts generalizing session state with
  | nil => rfl
  | cons act acts ih => exact ih _ _

/-- Whatever acts are performed and waited for at the end, the sink is given one event for each try
that was created, which tells of that try, in the order of the creations, and no other event.  What
the acts come to and the sessions after them are the same with any other sink, whatever the one and
the other fail on, and no wait fails. -/
theorem runAll_events_once (acts : List Act) (state : σ) :
    let performed := acts ++ [.waitForEvents]
    let (moments, last, handed) := Act.runAll config sink performed Session.start state
    moments.map Moment.act = performed ∧
    handed = sink.told (moments.filterMap Moment.event?) state ∧
    last.pending = [] ∧
    (∀ moment ∈ moments,
      (moment.Creates → moment.event?.isSome) ∧
      ∀ event, moment.event? = some event → moment.Tells event) ∧
    (∀ moment ∈ moments, ∀ result, moment.outcome = .waited result → result = .ok ()) ∧
    ∀ (τ : Type) (other : Sink τ) (begun : τ), ∃ handed,
      Act.runAll config other performed Session.start begun = (moments, last, handed) := by
  intro performed
  have emptied := pending_runAll_wait config sink acts Session.start state
  have told := told_runAll config sink performed Session.start state
  have tells := tells_runAll config sink performed Session.start state
  obtain ⟨same, waits⟩ := acts_runAll config sink performed Session.start state
  have congr := fun (τ : Type) (other : Sink τ) (begun : τ) =>
    runAll_congr config sink other performed Session.start state begun
  generalize Act.runAll config sink performed Session.start state = ran at *
  obtain ⟨moments, last, handed⟩ := ran
  refine ⟨same, ?_, emptied, tells, waits, congr⟩
  change last.pending = [] at emptied
  change sink.told last.pending handed = _ at told
  rw [emptied] at told
  exact told

end Act

end SearchTuning

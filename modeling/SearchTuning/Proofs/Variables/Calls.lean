import Mathlib.Data.Finset.Card
import SearchTuning.Proofs.Variables

/-!
# Variables as calls leave them

Variables are given values and lose them by calls, of which some are refused: a call that gives a
value fails if the value cannot be shown, or if no variable can have the name.  What variables hold
after any calls is said by the calls alone: the value that was written last and not taken since.
The changes that are counted are just the calls that change something.
-/

namespace SearchTuning.Variables

theorem has_iff (name : Text) (vars : Variables) :
    vars.has name = true ↔ ∃ value, vars.map.lookup name = some value :=
  Option.isSome_iff_exists

/-! ## Calls -/

/-- A call that gives a value to a variable, or takes the one that it has. -/
inductive Call where
  | set (name value : Json)
  | remove (name : Text)

/-- What a call answers. -/
inductive Answer where
  | written
  /-- Whether there was a value to take. -/
  | removed (had : Bool)
  | refused (e : Error)
  deriving DecidableEq

/-- Whether a call with this answer is to be told to those who look at the variables. -/
def Answer.signals : Answer → Bool
  | .written => true
  | .removed had => had
  | .refused _ => false

section

variable [Platform]

/-- The answer to a call, and the variables after it. -/
def Call.run : Call → Variables → Answer × Variables
  | .set name value, vars =>
      match vars.set name value with
      | .ok after => (.written, after)
      | .error e => (.refused e, vars)
  | .remove name, vars =>
      let (had, after) := vars.remove name
      (.removed had, after)

/-- Makes calls one after the other.  One that is refused does not stop those after it. -/
def runAll : List Call → Variables → List Answer × Variables
  | [], vars => ([], vars)
  | call :: calls, vars =>
      let (answer, vars) := call.run vars
      let (answers, vars) := runAll calls vars
      (answer :: answers, vars)

/-- A call is about a variable: it takes its value, or gives it one that can be shown. -/
def Call.Names (name : Text) (call : Call) : Prop :=
  call = .remove name ∨ ∃ value text, call = .set (.str name) value ∧ value.display = .ok text

/-- A value that a variable has after calls, where it is known what it had before them. -/
inductive Call.LastWritten (before : Text → Option Text) (calls : List Call) (name : Text) :
    Text → Prop where
  /-- It was written, and no later call is about the variable. -/
  | written {earlier later : List Call} {value : Json} {text : Text}
      (calls_eq : calls = earlier ++ .set (.str name) value :: later)
      (accepted : VariableName.isValid name = true) (shown : value.display = .ok text)
      (untouched : ∀ call ∈ later, ¬ call.Names name) : LastWritten before calls name text
  /-- It was there before, and no call is about the variable. -/
  | kept {value : Text} (had : before name = some value)
      (untouched : ∀ call ∈ calls, ¬ call.Names name) : LastWritten before calls name value

/-! ## One call -/

/-- How a call can end. -/
inductive CallOutcome (vars : Variables) : Call → Answer × Variables → Prop where
  /-- The value cannot be shown. -/
  | unshown (name : Json) {value : Json} {e : Error} (failed : value.display = .error e) :
      CallOutcome vars (.set name value) (.refused e, vars)
  | refused (name : Json) {value : Json} {text : Text} (shown : value.display = .ok text)
      (unaccepted : ∀ text, name = .str text → VariableName.isValid text = false) :
      CallOutcome vars (.set name value) (.refused (.invalidVariableName name), vars)
  | written {name : Text} {value : Json} {text : Text} (shown : value.display = .ok text)
      (accepted : VariableName.isValid name = true) :
      CallOutcome vars (.set (.str name) value)
        (.written, ⟨vars.map.set name text, vars.changes + 1⟩)
  | absent {name : Text} (missing : vars.has name = false) :
      CallOutcome vars (.remove name) (.removed false, vars)
  | taken {name : Text} (there : vars.has name = true) :
      CallOutcome vars (.remove name)
        (.removed true, ⟨Table.erase name vars.map, vars.changes + 1⟩)

theorem set_of_not_accepted {name value : Json} {text : Text} (shown : value.display = .ok text)
    (vars : Variables)
    (unaccepted : ∀ text, name = .str text → VariableName.isValid text = false) :
    vars.set name value = .error (.invalidVariableName name) := by
  rw [set, bind_of_eq_ok shown]
  unfold VariableName.check
  split
  · next text =>
    rw [unaccepted text rfl]
    rfl
  · rfl

theorem set_of_accepted {name text : Text} {value : Json} (shown : value.display = .ok text)
    (accepted : VariableName.isValid name = true) (vars : Variables) :
    vars.set (.str name) value = .ok ⟨vars.map.set name text, vars.changes + 1⟩ := by
  rw [set, bind_of_eq_ok shown, bind_of_eq_ok (VariableName.check_of_isValid accepted)]
  rfl

theorem call_outcome (vars : Variables) (call : Call) : CallOutcome vars call (call.run vars) := by
  cases call with
  | set name value =>
    cases shown : value.display with
    | error e =>
      have failed : vars.set name value = .error e := by
        rw [set, shown]
        rfl
      rw [Call.run, failed]
      exact .unshown name shown
    | ok text =>
      by_cases accepted : ∃ given, name = .str given ∧ VariableName.isValid given = true
      · obtain ⟨given, rfl, valid⟩ := accepted
        rw [Call.run, set_of_accepted shown valid]
        exact .written shown valid
      · have unaccepted : ∀ given, name = .str given → VariableName.isValid given = false :=
          fun given same => Bool.eq_false_iff.mpr fun valid => accepted ⟨given, same, valid⟩
        rw [Call.run, set_of_not_accepted shown vars unaccepted]
        exact .refused name shown unaccepted
  | remove name =>
    by_cases there : vars.has name = true
    · have removed : vars.remove name = (true, ⟨Table.erase name vars.map, vars.changes + 1⟩) :=
        if_pos there
      rw [Call.run, removed]
      exact .taken there
    · have removed : vars.remove name = (false, vars) := if_neg there
      rw [Call.run, removed]
      exact .absent (Bool.eq_false_iff.mpr there)

namespace CallOutcome

variable {vars : Variables} {call : Call} {ended : Answer × Variables}

theorem tidy (outcome : CallOutcome vars call ended) (tidy : vars.map.Tidy) : ended.2.map.Tidy := by
  cases outcome with
  | unshown name failed => exact tidy
  | refused name shown unaccepted => exact tidy
  | written shown accepted => exact tidy.set accepted _
  | absent missing => exact tidy
  | @taken name there => exact tidy.erase name

theorem changes_eq (outcome : CallOutcome vars call ended) :
    ended.2.changes = vars.changes + if ended.1.signals then 1 else 0 := by
  cases outcome <;> rfl

/-- A call leaves all variables alone but the one that it is about. -/
theorem lookup_of_not_names (outcome : CallOutcome vars call ended) {name : Text}
    (other : ¬ call.Names name) : ended.2.map.lookup name = vars.map.lookup name := by
  cases outcome with
  | unshown given failed => rfl
  | refused given shown unaccepted => rfl
  | @written given value text shown accepted =>
    have apart : given ≠ name := by
      rintro rfl
      exact other (.inr ⟨value, text, rfl, shown⟩)
    rw [VariableMap.lookup_set, if_neg apart]
  | absent missing => rfl
  | @taken given there =>
    have apart : given ≠ name := by
      rintro rfl
      exact other (.inl rfl)
    exact Table.get?_erase_of_ne apart vars.map

end CallOutcome

theorem lookup_run_remove (name : Text) (vars : Variables) :
    ((Call.remove name).run vars).2.map.lookup name = none := by
  change (vars.remove name).2.map.lookup name = none
  rw [map_remove]
  exact (Table.get?_erase name name vars.map).trans (if_pos rfl)

theorem lookup_run_set {name text : Text} {value : Json} (shown : value.display = .ok text)
    (accepted : VariableName.isValid name = true) (vars : Variables) :
    ((Call.set (.str name) value).run vars).2.map.lookup name = some text := by
  rw [Call.run, set_of_accepted shown accepted]
  change (vars.map.set name text).lookup name = some text
  rw [VariableMap.lookup_set, if_pos rfl]

/-! ## Many calls -/

/-- What was written last, counted from before a call or from after it, is the same. -/
theorem lastWritten_cons_iff {vars : Variables} (tidy : vars.map.Tidy) (call : Call)
    (calls : List Call) (name value : Text) :
    Call.LastWritten vars.map.lookup (call :: calls) name value ↔
      Call.LastWritten (call.run vars).2.map.lookup calls name value := by
  constructor
  · intro last
    cases last with
    | @written earlier later v _ calls_eq accepted shown untouched =>
      cases earlier with
      | nil =>
        cases calls_eq
        exact .kept (lookup_run_set shown accepted vars) untouched
      | cons first earlier =>
        cases calls_eq
        exact .written rfl accepted shown untouched
    | kept had untouched =>
      obtain ⟨other, untouched⟩ := List.forall_mem_cons.mp untouched
      have same := (call_outcome vars call).lookup_of_not_names other
      exact .kept (same.trans had) untouched
  · intro last
    cases last with
    | @written earlier later v _ calls_eq accepted shown untouched =>
      have split_eq : call :: calls = (call :: earlier) ++ .set (.str name) v :: later :=
        congrArg (call :: ·) calls_eq
      exact .written split_eq accepted shown untouched
    | kept had untouched =>
      by_cases names : call.Names name
      · rcases names with rfl | ⟨v, text, rfl, shown⟩
        · rw [lookup_run_remove] at had
          cases had
        · by_cases accepted : VariableName.isValid name = true
          · rw [lookup_run_set shown accepted] at had
            cases had
            have split_eq : Call.set (.str name) v :: calls = [] ++ .set (.str name) v :: calls := rfl
            exact .written split_eq accepted shown untouched
          · -- What is held has a name that is accepted.
            have held := (call_outcome vars (.set (.str name) v)).tidy tidy
            exact absurd (held.accepted_of_lookup had) accepted
      · have same := (call_outcome vars call).lookup_of_not_names names
        exact .kept (same.symm.trans had) (List.forall_mem_cons.mpr ⟨names, untouched⟩)

theorem lookup_runAll_iff {vars : Variables} (tidy : vars.map.Tidy) (calls : List Call)
    (name value : Text) :
    (runAll calls vars).2.map.lookup name = some value ↔
      Call.LastWritten vars.map.lookup calls name value := by
  induction calls generalizing vars with
  | nil =>
    constructor
    · intro had
      exact .kept had (List.forall_mem_nil _)
    · intro last
      cases last with
      | written calls_eq accepted shown untouched => simp at calls_eq
      | kept had untouched => exact had
  | cons call calls ih =>
    rw [lastWritten_cons_iff tidy]
    exact ih ((call_outcome vars call).tidy tidy)

theorem tidy_runAll {vars : Variables} (tidy : vars.map.Tidy) (calls : List Call) :
    (runAll calls vars).2.map.Tidy := by
  induction calls generalizing vars with
  | nil => exact tidy
  | cons call calls ih => exact ih ((call_outcome vars call).tidy tidy)

/-- As many changes are counted as there are answers that tell of one. -/
theorem changes_runAll (vars : Variables) (calls : List Call) :
    (runAll calls vars).2.changes =
      vars.changes + (runAll calls vars).1.countP Answer.signals := by
  induction calls generalizing vars with
  | nil => rfl
  | cons call calls ih =>
    change (runAll calls (call.run vars).2).2.changes =
      vars.changes + ((call.run vars).1 :: (runAll calls (call.run vars).2).1).countP _
    rw [ih, (call_outcome vars call).changes_eq, List.countP_cons]
    omega

/-! ## What variables begin with -/

/-- A member has a name and a value that can be shown. -/
def ShownAs (member : Text × Json) (entry : Text × Text) : Prop :=
  member.1 = entry.1 ∧ member.2.display = .ok entry.2

/-- The names and values that a value gives variables to begin with: nothing, the members of an
object with any values that can be shown, or records of texts, among which a name may come twice. -/
inductive Offers : Json → List (Text × Text) → Prop where
  | nothing : Offers .null []
  | mapping {members : List (Text × Json)} {entries : List (Text × Text)}
      (shown : List.Forall₂ ShownAs members entries) : Offers (.obj members) entries
  | records (entries : List (Text × Text)) :
      Offers (.arr (entries.map fun (name, value) => .arr [.str name, .str value])) entries

theorem entriesOfRecords_texts (entries : List (Text × Text)) :
    entriesOfRecords (entries.map fun (name, value) => (.str name, .str value)) = .ok entries := by
  induction entries with
  | nil => rfl
  | cons entry entries ih =>
    rw [entriesOfRecords, List.map_cons, List.mapM_cons]
    rw [entriesOfRecords] at ih
    rw [ih]
    rfl

/-- Members are written one after the other, as records of what they are shown as would be. -/
theorem ofMembers_of_shown {members : List (Text × Json)} {entries : List (Text × Text)}
    (shown : List.Forall₂ ShownAs members entries)
    (accepted : ∀ name ∈ entries.map Prod.fst, VariableName.isValid name = true) :
    ofMembers members =
      .ok ⟨entries.foldl (fun map entry => VariableMap.set entry.1 entry.2 map) [], 0⟩ := by
  have folded : ∀ start : Variables, ∃ changes,
      members.foldlM (fun vars member => vars.set (.str member.1) member.2) start = .ok
        ⟨entries.foldl (fun map entry => VariableMap.set entry.1 entry.2 map) start.map, changes⟩ := by
    induction shown with
    | nil => exact fun start => ⟨start.changes, rfl⟩
    | @cons member entry members entries here _ ih =>
      intro start
      obtain ⟨first, others⟩ := List.forall_mem_cons.mp accepted
      obtain ⟨named, displayed⟩ := here
      have step := set_of_accepted displayed first start
      rw [List.foldlM_cons, named, bind_of_eq_ok step]
      exact ih others _
  obtain ⟨changes, eq⟩ := folded ⟨[], 0⟩
  exact bind_of_eq_ok eq _

theorem ofJson_of_offers {initial : Json} {entries : List (Text × Text)}
    (offers : Offers initial entries)
    (accepted : ∀ name ∈ entries.map Prod.fst, VariableName.isValid name = true) :
    ofJson initial = ofEntries entries := by
  cases offers with
  | nothing => rfl
  | mapping shown =>
    exact (ofMembers_of_shown shown accepted).trans (ofEntries_of_accepted accepted).symm
  | records =>
    rw [ofJson, List.filterMap_map]
    change (entriesOfRecords (entries.filterMap fun (name, value) =>
      some ((.str name, .str value) : Json × Json)) >>= ofEntries) = ofEntries entries
    rw [List.filterMap_eq_map', entriesOfRecords_texts]
    rfl

/-! ## What variables hold -/

/-- Variables hold just what has been written last, in the order of their names, and have counted
just the calls that changed something. -/
structure Reflects (vars : Variables) (before : Text → Option Text) (calls : List Call)
    (answers : List Answer) : Prop where
  ascending : (vars.map.map Prod.fst).Pairwise Text.Before
  distinct : (vars.map.map Prod.fst).Nodup
  entry_iff : ∀ name value, (name, value) ∈ vars.map ↔ Call.LastWritten before calls name value
  has_iff : ∀ name, vars.has name = true ↔ ∃ value, (name, value) ∈ vars.map
  /-- There are as many entries as variables that have a value. -/
  length_eq : ∃ held : Finset Text, (∀ name, name ∈ held ↔ vars.has name = true) ∧
    vars.map.length = held.card
  changes_eq : vars.changes = answers.countP Answer.signals

theorem reflects_runAll {start : Variables} (tidy : start.map.Tidy) (unchanged : start.changes = 0)
    (calls : List Call) :
    (runAll calls start).2.Reflects start.map.lookup calls (runAll calls start).1 := by
  have ended : (runAll calls start).2.map.Tidy := tidy_runAll tidy calls
  have has_iff : ∀ name, (runAll calls start).2.has name = true ↔
      ∃ value, (name, value) ∈ (runAll calls start).2.map := by
    intro name
    simp only [Variables.has_iff, ended.mem_iff]
  refine
    { ascending := ended.ascending
      distinct := ended.distinct
      entry_iff := fun name value => ended.mem_iff.trans (lookup_runAll_iff tidy calls name value)
      has_iff := has_iff
      length_eq := ⟨((runAll calls start).2.map.map Prod.fst).toFinset, ?_, ?_⟩
      changes_eq := ?_ }
  · intro name
    rw [has_iff, List.mem_toFinset, List.mem_map]
    simp
  · rw [List.toFinset_card_of_nodup ended.distinct, List.length_map]
  · rw [changes_runAll, unchanged, Nat.zero_add]

/-- Variables begin with what is offered, if all names of it are accepted: the last value of each
name, and no change counted.  After any calls, of which some may be refused, they hold for each name
just the value that was written last and not taken since, and the changes are those of the answers.
A further call is refused, and leaves all as it is, just where its value cannot be shown or its name
is not accepted; and what is taken was there. -/
theorem runAll_holds_last_written {initial : Json} {entries : List (Text × Text)}
    (offers : Offers initial entries)
    (accepted : ∀ name ∈ entries.map Prod.fst, VariableName.isValid name = true)
    (calls : List Call) :
    ∃ start, ofJson initial = .ok start ∧ start.changes = 0 ∧
      let (answers, vars) := runAll calls start
      vars.Reflects (lastGiven entries) calls answers ∧
      ∀ call, CallOutcome vars call (call.run vars) := by
  have opened := ofEntries_of_accepted accepted
  obtain ⟨-, unchanged, tidy, last⟩ := ofEntries_eq_ok_iff.mp opened
  refine ⟨_, (ofJson_of_offers offers accepted).trans opened, unchanged, ?_,
    fun call => call_outcome _ call⟩
  rw [← funext last]
  exact reflects_runAll tidy unchanged calls

end

/-- A name comes twice in what is offered, a name is refused, one is taken that is not there, one is
written anew, and one is taken. -/
theorem runAll_holds_last_written_records :
    letI := Platform.usual
    let a := Text.ofString "a"
    let b := Text.ofString "b"
    let entries := [(b, Text.ofString "1"), (a, Text.ofString "2"), (b, Text.ofString "3")]
    let calls : List Call := [.set (.str (Text.ofString "a b")) .null, .remove (Text.ofString "c"),
      .set (.str a) (.bool true), .remove b]
    let initial : Json := .arr (entries.map fun (name, value) => .arr [.str name, .str value])
    ∃ start, ofJson initial = .ok start ∧ start.map = [(a, Text.ofString "2"), (b, Text.ofString "3")] ∧
      (runAll calls start).2.Reflects (lastGiven entries) calls (runAll calls start).1 ∧
      (runAll calls start).2 = ⟨[(a, Text.ofString "True")], 2⟩ := by
  intro a b entries calls initial
  let _ := Platform.usual
  obtain ⟨start, opened, -, reflects, -⟩ :=
    runAll_holds_last_written (.records entries) (by decide +kernel) calls
  have begun : ofJson initial =
      .ok ⟨[(a, Text.ofString "2"), (b, Text.ofString "3")], 0⟩ := by decide +kernel
  cases begun.symm.trans opened
  exact ⟨_, opened, rfl, reflects, by decide +kernel⟩

end SearchTuning.Variables

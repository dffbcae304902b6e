import SearchTuning.Table
import SearchTuning.Tries.Basic

/-!
# The store

Cases, tries and curator variables in three tables.  Each operation on a try's life is made of calls
to the store; a call is one step, and this module says what each call answers and leaves behind.
-/

namespace SearchTuning

/-- The tables of the store. -/
structure Store where
  cases : Table Int Case
  /-- Tries by case and number. -/
  tries : Table (Int × Int) Try
  /-- Variables by case and number; a try without variables has no entry. -/
  variableMaps : Table (Int × Int) (Table Text Text)
  nextCaseId : Int
  deriving DecidableEq, Repr

namespace Store

/-- The store that holds nothing. -/
def empty : Store := ⟨[], [], [], 1⟩

/-- Makes a case. -/
def createCase (name : Text) (store : Store) : Case × Store :=
  let made : Case := ⟨store.nextCaseId, name, 0⟩
  (made,
    { store with
      cases := Table.insert made.id made store.cases
      nextCaseId := store.nextCaseId + 1 })

/-- The case with a number. -/
def findCase (caseId : Int) (store : Store) : Option Case := Table.get? caseId store.cases

/-- Counts a try more in a case, and tells the new count. -/
def incrementLastTry (caseId : Int) (store : Store) : Option Int × Store :=
  match store.findCase caseId with
  | none => (none, store)
  | some found =>
      let counted := { found with lastTry := found.lastTry + 1 }
      (some counted.lastTry, { store with cases := Table.insert caseId counted store.cases })

/-- The tries of a case, in the order of their numbers. -/
def triesOf (caseId : Int) (store : Store) : List Try :=
  sortBy (fun s t => s.tryNo ≤ t.tryNo)
    ((store.tries.filter fun entry => entry.1.1 = caseId).map Prod.snd)

/-- The try of a case with a number. -/
def findTry (caseId tryNo : Int) (store : Store) : Option Try :=
  Table.get? (caseId, tryNo) store.tries

/-- The store with a try, in the place of the one with its case and number if there is one. -/
def putTry (t : Try) (store : Store) : Store :=
  { store with tries := Table.insert (t.caseId, t.tryNo) t store.tries }

/-- Saves a copy of a try.  Where the args have too many levels to be copied, nothing is saved. -/
def saveTry [Platform] (t : Try) (store : Store) : Except Error Unit × Store :=
  if t.args.levels ≤ Platform.copying then (.ok (), store.putTry t) else (.error .outOfStack, store)

/-- Deletes a try with its variables, and tells whether there was one. -/
def deleteTry (caseId tryNo : Int) (store : Store) : Bool × Store :=
  if Table.has (caseId, tryNo) store.tries then
    (true,
      { store with
        tries := Table.erase (caseId, tryNo) store.tries
        variableMaps := Table.erase (caseId, tryNo) store.variableMaps })
  else (false, store)

/-- The variables of a try, in the order in which they were written. -/
def variablesOf (caseId tryNo : Int) (store : Store) : Table Text Text :=
  (Table.get? (caseId, tryNo) store.variableMaps).getD []

/-- Writes the variables of a try, in the place of those it had. -/
def replaceVariables (caseId tryNo : Int) (vars : Table Text Text) (store : Store) : Store :=
  { store with
    variableMaps :=
      if vars = [] then Table.erase (caseId, tryNo) store.variableMaps
      else Table.insert (caseId, tryNo) vars store.variableMaps }

/-- The number of variables of all tries. -/
def countVariables (store : Store) : Nat :=
  store.variableMaps.foldr (fun entry n => entry.2.length + n) 0

/-- A call to the store. -/
inductive Call where
  | createCase (name : Text)
  | getCase (caseId : Int)
  | incrementLastTry (caseId : Int)
  | listTries (caseId : Int)
  | getTry (caseId tryNo : Int)
  | saveTry (t : Try)
  | deleteTry (caseId tryNo : Int)
  | getVariables (caseId tryNo : Int)
  | replaceVariables (caseId tryNo : Int) (vars : Table Text Text)
  | countVariables

/-- What a call answers. -/
abbrev Call.Answer : Call → Type
  | .createCase _ => Case
  | .getCase _ => Option Case
  | .incrementLastTry _ => Option Int
  | .listTries _ => List Try
  | .getTry .. => Option Try
  | .saveTry _ => Except Error Unit
  | .deleteTry .. => Bool
  | .getVariables .. => Table Text Text
  | .replaceVariables .. => Unit
  | .countVariables => Nat

/-- The answer to a call, and the store after it. -/
def answer [Platform] : (call : Call) → Store → call.Answer × Store
  | .createCase name, store => store.createCase name
  | .getCase caseId, store => (store.findCase caseId, store)
  | .incrementLastTry caseId, store => store.incrementLastTry caseId
  | .listTries caseId, store => (store.triesOf caseId, store)
  | .getTry caseId tryNo, store => (store.findTry caseId tryNo, store)
  | .saveTry t, store => store.saveTry t
  | .deleteTry caseId tryNo, store => store.deleteTry caseId tryNo
  | .getVariables caseId tryNo, store => (store.variablesOf caseId tryNo, store)
  | .replaceVariables caseId tryNo vars, store =>
      ((), store.replaceVariables caseId tryNo vars)
  | .countVariables, store => (store.countVariables, store)

end Store

end SearchTuning

import SearchTuning.Json.Display
import SearchTuning.Template.Basic

/-!
# Bindings of variables

The values of variables may be given as any JSON object.  A list gives names without values: it
tells which variables are known, and cannot be looked up.
-/

namespace SearchTuning

/-- What gives variables their values. -/
inductive Bindings where
  | table (entries : Table Text Json)
  | names (list : List Json)
  deriving DecidableEq

namespace Bindings

/-- The bindings that a value gives.  What is no object and no list gives none. -/
def ofJson : Json → Bindings
  | .obj members => .table members
  | .arr items => .names items
  | _ => .table []

/-- The text that stands for a variable: nothing for a name without a value or with `null`. -/
def value? (entries : Table Text Json) (name : Text) : Option Text :=
  match Table.get? name entries with
  | none | some .null => none
  | some v => some v.plain

/-- Whether a variable is known. -/
def knows : Bindings → Text → Bool
  | .table entries, name => Table.has name entries
  | .names list, name => list.contains (.str name)

/-- Refuses a name whose value cannot be shown. -/
def checkValue [Platform] (entries : Table Text Json) (name : Text) : Except Error Unit :=
  match Table.get? name entries with
  | none | some .null => .ok ()
  | some v => do
      let _ ← v.display
      pure ()

/-- The variables of a template as a look-up, which fails if the value of one of them cannot be
shown, or if one is to be looked up in a list. -/
def lookup [Platform] (bindings : Bindings) (template : Text) :
    Except Error (Text → Option Text) :=
  match bindings with
  | .table entries => do
      (Template.names template).forM (checkValue entries)
      pure (value? entries)
  | .names list =>
      if list ≠ [] ∧ Template.names template ≠ [] then .error .notTable else .ok fun _ => none

end Bindings

end SearchTuning

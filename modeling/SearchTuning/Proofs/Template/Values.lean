import SearchTuning.Args
import SearchTuning.Proofs.Table
import SearchTuning.Variables

/-!
# Values of variables that are texts

Where the variables of a template have texts as their values, to fill the template is to look each
name up, and it never fails.  Texts are shown whatever room there is.
-/

namespace SearchTuning

namespace VariableMap

/-- The map as what gives variables their values. -/
def bindings (m : VariableMap) : Bindings :=
  .table (m.map fun entry => (entry.1, .str entry.2))

/-- No map gives what the empty one gives. -/
theorem bindings_nil : bindings [] = Bindings.ofJson .null := rfl

theorem knows_bindings (m : VariableMap) (name : Text) :
    m.bindings.knows name = (m.lookup name).isSome := by
  rw [bindings, Bindings.knows, Table.has, Table.get?_map, Option.isSome_map, lookup]

variable [Platform]

theorem checkValue_bindings (m : VariableMap) (name : Text) :
    Bindings.checkValue (m.map fun entry => (entry.1, .str entry.2)) name = .ok () := by
  rw [Bindings.checkValue, Table.get?_map]
  cases Table.get? name m <;> rfl

theorem lookup_bindings (m : VariableMap) (template : Text) :
    m.bindings.lookup template = .ok m.lookup := by
  have value : Bindings.value? (m.map fun entry => (entry.1, .str entry.2)) = m.lookup := by
    funext name
    rw [Bindings.value?, Table.get?_map, lookup]
    cases Table.get? name m <;> rfl
  have checked : ∀ names : List Text,
      names.forM (Bindings.checkValue (m.map fun entry => (entry.1, .str entry.2))) = .ok () := by
    intro names
    induction names with
    | nil => rfl
    | cons name names ih =>
      rw [List.forM, checkValue_bindings]
      exact ih
  rw [bindings, Bindings.lookup, checked, value]
  rfl

end VariableMap

namespace Args

variable [Platform]

theorem substituteWith_bindings (escape : Text → Text) (phrase : Option Text) (m : VariableMap)
    (template : Text) :
    substituteWith escape phrase m.bindings template =
      .ok (substitute escape phrase m.lookup template) := by
  rw [substituteWith, m.lookup_bindings]
  rfl

theorem compileFor_bindings (tag : Text) (escapeQuery : Bool) (phrase : Option Text)
    (m : VariableMap) (template : Text) :
    compileFor tag escapeQuery phrase m.bindings template =
      engineOfTag tag >>= fun engine => compile engine escapeQuery phrase m.lookup template := by
  rw [compileFor, m.lookup_bindings]
  rfl

end Args

end SearchTuning

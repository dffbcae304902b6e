import SearchTuning.Fields.Checked
import SearchTuning.Json.Basic

/-!
# The platform

The operations run on a platform whose stack is finite.  How deep a document or a value may be
before the stack is used up depends on the platform, on its settings and on what else is on the
stack, and is another depth for each thing that is done with it.  The platform also words the report
on a record that is refused.  Nothing of this is fixed here.
-/

namespace SearchTuning

/-- What the operations depend on besides their arguments.  Containers are counted where only they
take room on the stack, and levels where a value without parts takes room too. -/
class Platform where
  /-- The most containers that may stand one in the other in a document that is read. -/
  reading : Nat
  /-- The most levels of a value that can be copied into the store.  What has been copied into it
  can be copied out of it. -/
  copying : Nat
  /-- The most levels of a value that can be shown as plain text. -/
  showing : Nat
  /-- The most containers that may stand one in the other in a document that is sent. -/
  sending : Nat
  /-- The most containers that may stand one in the other in a document that is printed. -/
  printing : Nat
  /-- The report on a value that is refused as a record of the given name for the given faults. -/
  report : (record : Text) → Json → List FieldError → Text

/-- A platform with a stack of about a thousand places, of which a copy takes two for each level.
Its reports are empty. -/
abbrev Platform.usual : Platform where
  reading := 980
  copying := 490
  showing := 980
  sending := 980
  printing := 980
  report := fun _ _ _ => []

end SearchTuning

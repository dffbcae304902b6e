import SearchTuning.Table
import SearchTuning.Text.Utf8

/-!
# Checked values

A record that is read from an object is checked field by field.  All faults are told, in the order
of the record's fields, each with the path of keys that leads to it.
-/

namespace SearchTuning

/-- Why a value is refused. -/
inductive Refusal where
  /-- A required field is absent. -/
  | missing
  /-- A record is no object. -/
  | notRecord
  | notText
  /-- A text that is to be read as something else holds a surrogate. -/
  | brokenText
  | notEngine
  /-- The value is not of a kind that can be a truth value. -/
  | notBool
  /-- The value is of such a kind, but stands for neither truth value. -/
  | unknownBool
  /-- The value is not of a kind that can be a whole number. -/
  | notInt
  /-- A text that is no numeral. -/
  | unknownInt
  /-- A number beyond the range that is read. -/
  | intTooLarge
  /-- A number with a fraction. -/
  | fractionalInt
  /-- A number that is not finite. -/
  | infiniteInt
  /-- A number below its least allowed value. -/
  | tooSmall
  /-- A table is no object. -/
  | notTable
  /-- The value that stands for a text has none: a number in it has too many digits. -/
  | unwritable
  /-- The stack is used up before the value is checked. -/
  | outOfStack
  deriving DecidableEq, Repr

/-- A fault of a field. -/
structure FieldError where
  path : List Text
  refusal : Refusal
  deriving DecidableEq, Repr

/-- The path as it is told: a key without surrogates as it is, any other key repaired. -/
def FieldError.location (e : FieldError) : List Text := e.path.map Utf8.repair

/-- A value, or the faults that it was found to have. -/
inductive Checked (α : Type) where
  | valid (a : α)
  | refused (errors : List FieldError)
  deriving Repr

namespace Checked

variable {α β : Type}

/-- Applies a checked function to a checked value; the faults of both are told. -/
def apply (f : Checked (α → β)) (x : Unit → Checked α) : Checked β :=
  match f, x () with
  | .valid f, .valid a => .valid (f a)
  | .valid _, .refused errors => .refused errors
  | .refused errors, .valid _ => .refused errors
  | .refused errors, .refused more => .refused (errors ++ more)

instance : Applicative Checked where
  pure := .valid
  seq := apply

/-- The faults of a value, told as those of the part of a record under a key. -/
def under (key : Text) : Checked α → Checked α
  | .valid a => .valid a
  | .refused errors => .refused (errors.map fun e => { e with path := key :: e.path })

/-- A value, or its one fault. -/
def ofExcept : Except Refusal α → Checked α
  | .ok a => .valid a
  | .error refusal => .refused [⟨[], refusal⟩]

/-- The entries of a table, each checked under its key. -/
def entries (check : α → Checked β) : Table Text α → Checked (Table Text β)
  | [] => .valid []
  | (key, a) :: rest =>
      (fun b table => (key, b) :: table) <$> (check a).under key <*> entries check rest

def toExcept : Checked α → Except (List FieldError) α
  | .valid a => .ok a
  | .refused errors => .error errors

end Checked

end SearchTuning

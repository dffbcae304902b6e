import SearchTuning.Fields.Coerce

/-!
# Records read from objects

A record takes each of its fields from an object by key, and passes over all other keys.
-/

namespace SearchTuning.Record

/-- The members of an object. -/
abbrev Members := Table Text Json

variable {α : Type}

/-- The value under a key, as the given kind takes it. -/
def taken (key : Text) (coerce : Json → Except Refusal α) (v : Json) : Checked α :=
  (Checked.ofExcept (coerce v)).under key

/-- A field that must be there. -/
def required (key : String) (coerce : Json → Except Refusal α) (members : Members) : Checked α :=
  match Table.get? (Text.ofString key) members with
  | none => .refused [⟨[Text.ofString key], .missing⟩]
  | some v => taken (Text.ofString key) coerce v

/-- A field that has a value if it is not there. -/
def defaulted (key : String) (default : α) (coerce : Json → Except Refusal α) (members : Members) :
    Checked α :=
  match Table.get? (Text.ofString key) members with
  | none => .valid default
  | some v => taken (Text.ofString key) coerce v

/-- The record that an object is. -/
def ofJson (check : Members → Checked α) : Json → Checked α
  | .obj members => check members
  | _ => .refused [⟨[], .notRecord⟩]

end SearchTuning.Record

import SearchTuning.Error

/-!
# Walking through values

A value is walked through before it is shown, sent or printed.  The walk ends at the first place, in
the order in which the value is written, that cannot be written, or for which the stack has no room.
-/

namespace SearchTuning

namespace Node

variable {σ : Type}

mutual

/-- How many levels a document has, a value without parts being one. -/
def levels : Node σ → Nat
  | .scalar _ => 1
  | .str _ => 1
  | .arr items => levelsOfItems items + 1
  | .obj members => levelsOfMembers members + 1

/-- The most levels of items. -/
def levelsOfItems : List (Node σ) → Nat
  | [] => 0
  | item :: items => max (levels item) (levelsOfItems items)

/-- The most levels of the values of members. -/
def levelsOfMembers : List (σ × Node σ) → Nat
  | [] => 0
  | (_, value) :: members => max (levels value) (levelsOfMembers members)

end

end Node

namespace Json

/-- What a walk refuses. -/
structure Walk where
  /-- Whether values without parts take room. -/
  leaves : Bool
  scalar : Scalar → Except Error Unit
  key : Text → Except Error Unit
  /-- The error where there is no room. -/
  full : Error

namespace Walk

mutual

/-- Walks through a value with room for so many levels. -/
def check (walk : Walk) : Nat → Json → Except Error Unit
  | room, .scalar s => if walk.leaves && room = 0 then .error walk.full else walk.scalar s
  | room, .str _ => if walk.leaves && room = 0 then .error walk.full else .ok ()
  | 0, .arr _ => .error walk.full
  | 0, .obj _ => .error walk.full
  | room + 1, .arr items => checkItems walk room items
  | room + 1, .obj members => checkMembers walk room members

def checkItems (walk : Walk) (room : Nat) : List Json → Except Error Unit
  | [] => .ok ()
  | item :: items => do
      check walk room item
      checkItems walk room items

def checkMembers (walk : Walk) (room : Nat) : List (Text × Json) → Except Error Unit
  | [] => .ok ()
  | (key, value) :: members => do
      walk.key key
      check walk room value
      checkMembers walk room members

end

/-- Refuses a whole number with too many digits. -/
def digits : Scalar → Except Error Unit
  | .int n => if Numeral.fits n then .ok () else .error .tooManyDigits
  | _ => .ok ()

/-- Refuses a number that has no form in the documents that are sent. -/
def number : Scalar → Except Error Unit
  | .double x => if x.isFinite then .ok () else .error .notFinite
  | s => digits s

/-- The walk through a value that is shown as plain text. -/
def showing : Walk := ⟨true, digits, fun _ => .ok (), .outOfStack⟩

/-- The walk through a view. -/
def viewing : Walk :=
  ⟨true, fun _ => .ok (), fun key => if key.hasSurrogate then .error .unencodable else .ok (),
    .tooManyLevels⟩

/-- The walk through a document that is sent. -/
def sending : Walk := ⟨false, number, fun _ => .ok (), .outOfStack⟩

/-- The walk through a document that is printed. -/
def printing : Walk := ⟨false, digits, fun _ => .ok (), .outOfStack⟩

end Walk

end Json

end SearchTuning

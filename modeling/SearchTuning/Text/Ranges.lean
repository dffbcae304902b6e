/-!
# Sets of code points given by their boundaries

A set of numbers is written as the ascending list of the numbers at which membership changes: the
first starts a run of members, the second ends it, and so on.
-/

namespace SearchTuning.Ranges

/-- Membership of a number, read along the boundaries from a known membership before them. -/
def containsFrom : Bool → List Nat → Nat → Bool
  | inside, [], _ => inside
  | inside, bound :: bounds, n =>
      if n < bound then inside else containsFrom (!inside) bounds n

/-- Membership of a number in the set with the given boundaries. -/
def contains (bounds : List Nat) (n : Nat) : Bool := containsFrom false bounds n

end SearchTuning.Ranges

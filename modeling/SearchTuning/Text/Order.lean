import SearchTuning.Text.Basic

/-!
# Order

Texts are ordered by their code points, first difference first.  Lists are sorted by insertion,
which keeps equal items in their order.
-/

namespace SearchTuning

/-- Whether a text comes before another or is equal to it. -/
def Text.le : Text → Text → Bool
  | [], _ => true
  | _ :: _, [] => false
  | a :: as, b :: bs => a < b || (a = b && Text.le as bs)

/-- Puts an item before the first that it may stand before. -/
def insertSorted {α : Type} (le : α → α → Bool) (x : α) : List α → List α
  | [] => [x]
  | y :: ys => if le x y then x :: y :: ys else y :: insertSorted le x ys

/-- The items in order. -/
def sortBy {α : Type} (le : α → α → Bool) (items : List α) : List α :=
  items.foldr (insertSorted le) []

end SearchTuning

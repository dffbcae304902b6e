/-!
# Tables

A table holds its entries in the order in which their keys first came.  Writing to a key that is
there keeps its place.
-/

namespace SearchTuning

/-- Keys and values, in the order of the keys' first coming. -/
abbrev Table (κ ν : Type) := List (κ × ν)

namespace Table

variable {κ ν : Type} [DecidableEq κ]

/-- The value at a key. -/
def get? (key : κ) : Table κ ν → Option ν
  | [] => none
  | (k, v) :: rest => if k = key then some v else get? key rest

/-- Whether a key has a value. -/
def has (key : κ) (table : Table κ ν) : Bool := (get? key table).isSome

/-- Writes a value: in its place if the key is there, at the end if not. -/
def insert (key : κ) (value : ν) : Table κ ν → Table κ ν
  | [] => [(key, value)]
  | (k, v) :: rest => if k = key then (k, value) :: rest else (k, v) :: insert key value rest

/-- The table without a key. -/
def erase (key : κ) (table : Table κ ν) : Table κ ν := table.filter fun entry => entry.1 ≠ key

/-- The table of entries written one after the other. -/
def ofEntries (entries : List (κ × ν)) : Table κ ν :=
  entries.foldl (fun table entry => insert entry.1 entry.2 table) []

end Table

end SearchTuning

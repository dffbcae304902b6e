import SearchTuning.Double.Basic
import SearchTuning.Table

/-!
# JSON values

A document is a tree whose strings may be given in any form: as they are written, or as the text
they stand for.  Whole numbers have any size and are apart from doubles.
-/

namespace SearchTuning

/-- A value without parts, strings apart. -/
inductive Scalar where
  | null
  | bool (b : Bool)
  | int (n : Int)
  | double (x : Double)
  deriving DecidableEq, Repr

/-- A document whose strings and keys have the form `σ`. -/
inductive Node (σ : Type) where
  | scalar (s : Scalar)
  | str (s : σ)
  | arr (items : List (Node σ))
  | obj (members : List (σ × Node σ))
  deriving Repr

/-- A value: a document whose strings are texts. -/
abbrev Json := Node Text

namespace Node

variable {σ τ : Type}

@[match_pattern] abbrev null : Node σ := .scalar .null
@[match_pattern] abbrev bool (b : Bool) : Node σ := .scalar (.bool b)
@[match_pattern] abbrev int (n : Int) : Node σ := .scalar (.int n)
@[match_pattern] abbrev double (x : Double) : Node σ := .scalar (.double x)

mutual

/-- The same document with every string in another form. -/
def map (f : σ → τ) : Node σ → Node τ
  | .scalar s => .scalar s
  | .str s => .str (f s)
  | .arr items => .arr (mapItems f items)
  | .obj members => .obj (mapMembers f members)

/-- The items of an array with every string in another form. -/
def mapItems (f : σ → τ) : List (Node σ) → List (Node τ)
  | [] => []
  | item :: items => map f item :: mapItems f items

/-- The members of an object with every string in another form. -/
def mapMembers (f : σ → τ) : List (σ × Node σ) → List (τ × Node τ)
  | [] => []
  | (key, value) :: members => (f key, map f value) :: mapMembers f members

end

mutual

/-- Equality of documents, decided. -/
def same [DecidableEq σ] : Node σ → Node σ → Bool
  | .scalar a, .scalar b => a = b
  | .str a, .str b => a = b
  | .arr a, .arr b => sameItems a b
  | .obj a, .obj b => sameMembers a b
  | _, _ => false

/-- Equality of items, decided. -/
def sameItems [DecidableEq σ] : List (Node σ) → List (Node σ) → Bool
  | [], [] => true
  | a :: as, b :: bs => same a b && sameItems as bs
  | _, _ => false

/-- Equality of members, decided. -/
def sameMembers [DecidableEq σ] : List (σ × Node σ) → List (σ × Node σ) → Bool
  | [], [] => true
  | (j, a) :: as, (k, b) :: bs => j = k && same a b && sameMembers as bs
  | _, _ => false

end

mutual

theorem same_iff [DecidableEq σ] : ∀ a b : Node σ, same a b = true ↔ a = b
  | .scalar a, .scalar b => by simp [same]
  | .str a, .str b => by simp [same]
  | .arr a, .arr b => by simp [same, sameItems_iff a b]
  | .obj a, .obj b => by simp [same, sameMembers_iff a b]
  | .scalar _, .str _ => by simp [same]
  | .scalar _, .arr _ => by simp [same]
  | .scalar _, .obj _ => by simp [same]
  | .str _, .scalar _ => by simp [same]
  | .str _, .arr _ => by simp [same]
  | .str _, .obj _ => by simp [same]
  | .arr _, .scalar _ => by simp [same]
  | .arr _, .str _ => by simp [same]
  | .arr _, .obj _ => by simp [same]
  | .obj _, .scalar _ => by simp [same]
  | .obj _, .str _ => by simp [same]
  | .obj _, .arr _ => by simp [same]

theorem sameItems_iff [DecidableEq σ] : ∀ as bs : List (Node σ), sameItems as bs = true ↔ as = bs
  | [], [] => by simp [sameItems]
  | [], _ :: _ => by simp [sameItems]
  | _ :: _, [] => by simp [sameItems]
  | a :: as, b :: bs => by simp [sameItems, same_iff a b, sameItems_iff as bs]

theorem sameMembers_iff [DecidableEq σ] :
    ∀ as bs : List (σ × Node σ), sameMembers as bs = true ↔ as = bs
  | [], [] => by simp [sameMembers]
  | [], _ :: _ => by simp [sameMembers]
  | _ :: _, [] => by simp [sameMembers]
  | (j, a) :: as, (k, b) :: bs => by
      simp [sameMembers, same_iff a b, sameMembers_iff as bs, and_assoc]

end

instance [DecidableEq σ] : DecidableEq (Node σ) := fun a b =>
  decidable_of_iff (same a b = true) (same_iff a b)

end Node

namespace Json

mutual

/-- The value in which each key of an object stands once: at the place where it first came, with
the value that came last. -/
def collapse : Json → Json
  | .scalar s => .scalar s
  | .str s => .str s
  | .arr items => .arr (collapseItems items)
  | .obj members => .obj (Table.ofEntries (collapseMembers members))

def collapseItems : List Json → List Json
  | [] => []
  | item :: items => collapse item :: collapseItems items

def collapseMembers : List (Text × Json) → List (Text × Json)
  | [] => []
  | (key, value) :: members => (key, collapse value) :: collapseMembers members

end

mutual

/-- The value with `null` in the place of numbers that are not finite. -/
def finiteOnly : Json → Json
  | .double x => if x.isFinite then .double x else .null
  | .scalar s => .scalar s
  | .str s => .str s
  | .arr items => .arr (finiteItems items)
  | .obj members => .obj (finiteMembers members)

def finiteItems : List Json → List Json
  | [] => []
  | item :: items => finiteOnly item :: finiteItems items

def finiteMembers : List (Text × Json) → List (Text × Json)
  | [] => []
  | (key, value) :: members => (key, finiteOnly value) :: finiteMembers members

end

end Json

end SearchTuning

import SearchTuning.Json.Walk
import SearchTuning.Proofs.Json.Readable
import SearchTuning.Proofs.Results

/-!
# What a walk refuses

A walk with room enough for a value refuses it only for its numbers and its keys.  How much room is
enough is told by the containers that stand one in the other, or by the levels of the value.
-/

namespace SearchTuning

/-! ## Levels, numbers and keys -/

namespace Node

variable {σ : Type}

/-- At most so many containers of a document stand one in the other. -/
inductive Nested : Nat → Node σ → Prop where
  | scalar {levels : Nat} (s : Scalar) : Nested levels (.scalar s)
  | str {levels : Nat} (s : σ) : Nested levels (.str s)
  | arr {levels : Nat} {items : List (Node σ)} (each : ∀ item ∈ items, Nested levels item) :
      Nested (levels + 1) (.arr items)
  | obj {levels : Nat} {members : List (σ × Node σ)}
      (each : ∀ member ∈ members, Nested levels member.2) : Nested (levels + 1) (.obj members)

theorem levelsOfItems_le_iff {items : List (Node σ)} {n : Nat} :
    levelsOfItems items ≤ n ↔ ∀ item ∈ items, item.levels ≤ n := by
  induction items with
  | nil => exact ⟨fun _ => List.forall_mem_nil _, fun _ => Nat.zero_le n⟩
  | cons item items ih => rw [levelsOfItems, Nat.max_le, ih, List.forall_mem_cons]

theorem levelsOfMembers_le_iff {members : List (σ × Node σ)} {n : Nat} :
    levelsOfMembers members ≤ n ↔ ∀ member ∈ members, member.2.levels ≤ n := by
  induction members with
  | nil => exact ⟨fun _ => List.forall_mem_nil _, fun _ => Nat.zero_le n⟩
  | cons member members ih =>
    obtain ⟨key, value⟩ := member
    rw [levelsOfMembers, Nat.max_le, ih, List.forall_mem_cons]

/-- A document has at most one level more than containers stand one in the other. -/
theorem Nested.levels_le {n : Nat} {v : Node σ} (nested : v.Nested n) : v.levels ≤ n + 1 := by
  induction nested with
  | scalar s => exact Nat.le_add_left 1 _
  | str s => exact Nat.le_add_left 1 _
  | arr each ih => exact Nat.succ_le_succ (levelsOfItems_le_iff.mpr ih)
  | obj each ih => exact Nat.succ_le_succ (levelsOfMembers_le_iff.mpr ih)

mutual

/-- No more containers stand one in the other than a document has levels. -/
theorem nested_of_levels_le : ∀ {v : Node σ} {n : Nat}, v.levels ≤ n → v.Nested n
  | .scalar s, _, _ => .scalar s
  | .str s, _, _ => .str s
  | .arr _, 0, few => nomatch few
  | .arr _, _ + 1, few => .arr (nested_of_levelsOfItems_le (Nat.le_of_succ_le_succ few))
  | .obj _, 0, few => nomatch few
  | .obj _, _ + 1, few => .obj (nested_of_levelsOfMembers_le (Nat.le_of_succ_le_succ few))

theorem nested_of_levelsOfItems_le : ∀ {items : List (Node σ)} {n : Nat},
    levelsOfItems items ≤ n → ∀ item ∈ items, item.Nested n
  | [], _, _ => List.forall_mem_nil _
  | _ :: _, _, few => List.forall_mem_cons.mpr
      ⟨nested_of_levels_le (Nat.max_le.mp few).1, nested_of_levelsOfItems_le (Nat.max_le.mp few).2⟩

theorem nested_of_levelsOfMembers_le : ∀ {members : List (σ × Node σ)} {n : Nat},
    levelsOfMembers members ≤ n → ∀ member ∈ members, member.2.Nested n
  | [], _, _ => List.forall_mem_nil _
  | (_, _) :: _, _, few => List.forall_mem_cons.mpr
      ⟨nested_of_levels_le (Nat.max_le.mp few).1, nested_of_levelsOfMembers_le (Nat.max_le.mp few).2⟩

end

mutual

/-- The parts of a document that have no parts, strings apart. -/
def scalars : Node σ → List Scalar
  | .scalar s => [s]
  | .str _ => []
  | .arr items => scalarsOfItems items
  | .obj members => scalarsOfMembers members

def scalarsOfItems : List (Node σ) → List Scalar
  | [] => []
  | item :: items => scalars item ++ scalarsOfItems items

def scalarsOfMembers : List (σ × Node σ) → List Scalar
  | [] => []
  | (_, value) :: members => scalars value ++ scalarsOfMembers members

end

theorem scalarsOfMembers_append (front back : List (σ × Node σ)) :
    scalarsOfMembers (front ++ back) = scalarsOfMembers front ++ scalarsOfMembers back := by
  induction front with
  | nil => rfl
  | cons member front ih =>
    obtain ⟨key, value⟩ := member
    rw [List.cons_append, scalarsOfMembers, ih, scalarsOfMembers, List.append_assoc]

theorem forall_mem_scalarsOfItems_iff {items : List (Node σ)} {p : Scalar → Prop} :
    (∀ s ∈ scalarsOfItems items, p s) ↔ ∀ item ∈ items, ∀ s ∈ item.scalars, p s := by
  induction items with
  | nil => exact ⟨fun _ => List.forall_mem_nil _, fun _ => List.forall_mem_nil _⟩
  | cons item items ih => rw [scalarsOfItems, List.forall_mem_append, ih, List.forall_mem_cons]

theorem forall_mem_scalarsOfMembers_iff {members : List (σ × Node σ)} {p : Scalar → Prop} :
    (∀ s ∈ scalarsOfMembers members, p s) ↔ ∀ member ∈ members, ∀ s ∈ member.2.scalars, p s := by
  induction members with
  | nil => exact ⟨fun _ => List.forall_mem_nil _, fun _ => List.forall_mem_nil _⟩
  | cons member members ih =>
    obtain ⟨key, value⟩ := member
    rw [scalarsOfMembers, List.forall_mem_append, ih, List.forall_mem_cons]

theorem Readable.nested {room : Nat} {v : Node σ} (readable : v.Readable room) :
    v.Nested room := by
  induction readable with
  | scalar readable => exact .scalar _
  | str s => exact .str s
  | arr each ih => exact .arr ih
  | obj each ih => exact .obj ih

theorem Readable.scalars {room : Nat} {v : Node σ} (readable : v.Readable room) :
    ∀ s ∈ v.scalars, s.Readable := by
  induction readable with
  | scalar readable => exact List.forall_mem_singleton.mpr readable
  | str s => exact List.forall_mem_nil _
  | arr each ih => exact forall_mem_scalarsOfItems_iff.mpr ih
  | obj each ih => exact forall_mem_scalarsOfMembers_iff.mpr ih

end Node

/-- A document that can be read and nests few enough containers can be read with just so much
room. -/
theorem Node.Readable.within {σ : Type} {room levels : Nat} {v : Node σ}
    (readable : v.Readable room) (nested : v.Nested levels) : v.Readable levels := by
  induction nested generalizing room with
  | scalar s =>
    cases readable with
    | scalar readable => exact .scalar readable
  | str s => exact .str s
  | arr each ih =>
    cases readable with
    | arr readable => exact .arr fun item member => ih item member (readable item member)
  | obj each ih =>
    cases readable with
    | obj readable => exact .obj fun member there => ih member there (readable member there)

/-- Whether a value without parts is no number or a finite one. -/
def Scalar.isFinite : Scalar → Bool
  | .double x => x.isFinite
  | _ => true

/-- Whether all numbers in a value are finite. -/
def Json.isFinite (v : Json) : Bool := v.scalars.all Scalar.isFinite

/-! ## Walks -/

namespace Json.Walk

theorem digits_of_readable {s : Scalar} (readable : s.Readable) : digits s = .ok () := by
  cases s with
  | int n => exact if_pos (fits_iff_readable.mpr readable)
  | _ => rfl

/-- The room that a walk needs for a value without parts. -/
def leaf (walk : Walk) : Nat := if walk.leaves then 1 else 0

variable {walk : Walk}

theorem leaf_free {levels room : Nat} (fits : levels + walk.leaf ≤ room) :
    (walk.leaves && decide (room = 0)) = false := by
  unfold leaf at fits
  cases leaves : walk.leaves with
  | false => rfl
  | true =>
    rw [leaves, if_pos rfl] at fits
    exact decide_eq_false (by omega)

section

variable (e : Error) (badScalar : Scalar → Bool) (badKey : Text → Bool)

mutual

/-- A walk that has room for a value, and but one error for its parts, fails just if it refuses a
number or a key of it. -/
theorem check_eq
    (keys : ∀ key, walk.key key = if badKey key then .error e else .ok ()) :
    ∀ {v : Json} {levels room : Nat}, v.Nested levels → levels + walk.leaf ≤ room →
    (∀ s ∈ v.scalars, walk.scalar s = if badScalar s then .error e else .ok ()) →
      walk.check room v =
        if v.scalars.any badScalar || v.keys.any badKey then .error e else .ok ()
  | .scalar s, _, _, _, fits, each => by
      rw [check, leaf_free fits, each s List.mem_cons_self, Node.scalars, Node.keys]
      simp
  | .str _, _, _, _, fits, _ => by
      rw [check, leaf_free fits]
      rfl
  | .arr items, _, 0, .arr _, fits, _ => by omega
  | .arr items, _, room + 1, .arr nested, fits, each =>
      checkItems_eq keys nested (by omega) each
  | .obj members, _, 0, .obj _, fits, _ => by omega
  | .obj members, _, room + 1, .obj nested, fits, each =>
      checkMembers_eq keys nested (by omega) each

theorem checkItems_eq
    (keys : ∀ key, walk.key key = if badKey key then .error e else .ok ()) :
    ∀ {items : List Json} {levels room : Nat},
    (∀ item ∈ items, item.Nested levels) → levels + walk.leaf ≤ room →
    (∀ s ∈ Node.scalarsOfItems items,
      walk.scalar s = if badScalar s then .error e else .ok ()) →
      walk.checkItems room items =
        if (Node.scalarsOfItems items).any badScalar || (Node.keysOfItems items).any badKey then
          .error e
        else .ok ()
  | [], _, _, _, _, _ => rfl
  | item :: items, _, _, nested, fits, each => by
      obtain ⟨first, others⟩ := List.forall_mem_cons.mp nested
      rw [Node.scalarsOfItems, List.forall_mem_append] at each
      rw [checkItems, check_eq keys first fits each.1, checkItems_eq keys others fits each.2,
        Node.scalarsOfItems, Node.keysOfItems, List.any_append, List.any_append]
      cases item.scalars.any badScalar <;> cases item.keys.any badKey <;> simp <;> rfl

theorem checkMembers_eq
    (keys : ∀ key, walk.key key = if badKey key then .error e else .ok ()) :
    ∀ {members : List (Text × Json)} {levels room : Nat},
    (∀ member ∈ members, member.2.Nested levels) → levels + walk.leaf ≤ room →
    (∀ s ∈ Node.scalarsOfMembers members,
      walk.scalar s = if badScalar s then .error e else .ok ()) →
      walk.checkMembers room members =
        if (Node.scalarsOfMembers members).any badScalar ||
            (Node.keysOfMembers members).any badKey then .error e
        else .ok ()
  | [], _, _, _, _, _ => rfl
  | (key, value) :: members, _, _, nested, fits, each => by
      obtain ⟨first, others⟩ := List.forall_mem_cons.mp nested
      rw [Node.scalarsOfMembers, List.forall_mem_append] at each
      rw [checkMembers, keys key, check_eq keys first fits each.1,
        checkMembers_eq keys others fits each.2, Node.scalarsOfMembers, Node.keysOfMembers,
        List.any_append, List.cons_append, List.any_cons, List.any_append]
      cases badKey key <;> cases value.scalars.any badScalar <;>
        cases value.keys.any badKey <;> simp <;> rfl

end

end

/-- A walk that stops at a value without parts has no room at all. -/
theorem lt_one_of_stopped {room : Nat} (stopped : (walk.leaves && decide (room = 0)) = true) :
    room < 1 := by
  rw [Bool.and_eq_true, decide_eq_true_eq] at stopped
  omega

mutual

/-- A walk that has no room for a value has less than the value has levels. -/
theorem lt_levels_of_check (scalars : ∀ s, walk.scalar s ≠ .error walk.full)
    (keys : ∀ key, walk.key key ≠ .error walk.full) : ∀ {v : Json} {room : Nat},
    walk.check room v = .error walk.full → room < v.levels
  | .scalar s, room, full => by
      rw [check] at full
      split at full
      · next stopped => exact lt_one_of_stopped stopped
      · exact absurd full (scalars s)
  | .str _, room, full => by
      rw [check] at full
      split at full
      · next stopped => exact lt_one_of_stopped stopped
      · cases full
  | .arr _, 0, _ => Nat.succ_pos _
  | .obj _, 0, _ => Nat.succ_pos _
  | .arr _, _ + 1, full => Nat.succ_lt_succ (lt_levelsOfItems_of_check scalars keys full)
  | .obj _, _ + 1, full => Nat.succ_lt_succ (lt_levelsOfMembers_of_check scalars keys full)

theorem lt_levelsOfItems_of_check (scalars : ∀ s, walk.scalar s ≠ .error walk.full)
    (keys : ∀ key, walk.key key ≠ .error walk.full) : ∀ {items : List Json} {room : Nat},
    walk.checkItems room items = .error walk.full → room < Node.levelsOfItems items
  | [], _, full => nomatch full
  | item :: items, room, full => by
      rw [checkItems] at full
      rcases bind_eq_error full with here | ⟨_, -, later⟩
      · exact Nat.lt_of_lt_of_le (lt_levels_of_check scalars keys here) (Nat.le_max_left _ _)
      · exact Nat.lt_of_lt_of_le (lt_levelsOfItems_of_check scalars keys later)
          (Nat.le_max_right _ _)

theorem lt_levelsOfMembers_of_check (scalars : ∀ s, walk.scalar s ≠ .error walk.full)
    (keys : ∀ key, walk.key key ≠ .error walk.full) :
    ∀ {members : List (Text × Json)} {room : Nat},
    walk.checkMembers room members = .error walk.full → room < Node.levelsOfMembers members
  | [], _, full => nomatch full
  | (key, value) :: members, room, full => by
      rw [checkMembers] at full
      rcases bind_eq_error full with named | ⟨_, -, full⟩
      · exact absurd named (keys key)
      rcases bind_eq_error full with here | ⟨_, -, later⟩
      · exact Nat.lt_of_lt_of_le (lt_levels_of_check scalars keys here) (Nat.le_max_left _ _)
      · exact Nat.lt_of_lt_of_le (lt_levelsOfMembers_of_check scalars keys later)
          (Nat.le_max_right _ _)

end

/-- Members are walked through in their order. -/
theorem checkMembers_append (walk : Walk) (room : Nat) (front back : List (Text × Json)) :
    walk.checkMembers room (front ++ back) =
      walk.checkMembers room front >>= fun _ => walk.checkMembers room back := by
  induction front with
  | nil => rfl
  | cons member front ih =>
    obtain ⟨key, value⟩ := member
    rw [List.cons_append, checkMembers, checkMembers, ih]
    cases walk.key key with
    | error e => rfl
    | ok _ => cases walk.check room value <;> rfl

/-- A document whose numbers have few enough digits is printed if there is room for its
containers. -/
theorem check_printing {v : Json} {room more : Nat} (readable : v.Readable room)
    (fits : room ≤ more) : printing.check more v = .ok () := by
  have each : ∀ s ∈ v.scalars, printing.scalar s = .ok () := fun s member =>
    digits_of_readable (readable.scalars s member)
  have checked := check_eq .outOfStack (fun _ => false) (fun _ => false) (fun _ => rfl)
    readable.nested fits each
  rwa [List.any_eq_false.mpr fun _ _ => Bool.false_ne_true,
    List.any_eq_false.mpr fun _ _ => Bool.false_ne_true] at checked

theorem number_of_readable {s : Scalar} (readable : s.Readable) :
    number s = if !s.isFinite then .error .notFinite else .ok () := by
  cases s with
  | double x =>
    rw [number, Scalar.isFinite]
    cases x.isFinite <;> rfl
  | _ => exact digits_of_readable readable

/-- A document whose numbers have few enough digits is sent, if there is room for its containers,
just if all its numbers are finite. -/
theorem check_sending {v : Json} {room more : Nat} (readable : v.Readable room)
    (fits : room ≤ more) :
    sending.check more v = if v.isFinite then .ok () else .error .notFinite := by
  have each : ∀ s ∈ v.scalars, sending.scalar s =
      if !s.isFinite then .error .notFinite else .ok () := fun s member =>
    number_of_readable (readable.scalars s member)
  have checked := check_eq .notFinite (fun s => !s.isFinite) (fun _ => false) (fun _ => rfl)
    readable.nested fits each
  rw [List.any_eq_false.mpr fun _ _ => Bool.false_ne_true, Bool.or_false,
    ← List.not_all_eq_any_not, ← isFinite] at checked
  rw [checked]
  cases v.isFinite <;> rfl

/-- A view is refused for nothing but its keys if there is room for its levels. -/
theorem check_viewing {v : Json} {levels room : Nat} (nested : v.Nested levels)
    (fits : levels < room) :
    viewing.check room v =
      if v.keys.any Text.hasSurrogate then .error .unencodable else .ok () := by
  have checked := @check_eq viewing .unencodable (fun _ => false) Text.hasSurrogate
    (fun _ => rfl) v levels room nested fits fun _ _ => rfl
  rwa [List.any_eq_false.mpr fun _ _ => Bool.false_ne_true] at checked

end Json.Walk

end SearchTuning

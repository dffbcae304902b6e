import SearchTuning.Proofs.Json.Walk
import SearchTuning.Tries.Basic

/-!
# Values as they are shown

A value with few enough levels is shown, with `null` for numbers that are not finite, unless a key
of it holds a surrogate.  What is shown can be written and read back.
-/

namespace SearchTuning

namespace Json

theorem exported_eq {v : Json} {levels : Nat} (nested : v.Nested levels)
    (fits : levels < shownLevels) :
    v.exported =
      if v.keys.any Text.hasSurrogate then .error .unencodable else .ok v.finiteOnly := by
  rw [exported, Walk.check_viewing nested fits]
  split <;> rfl

/-! ## Numbers that are not finite -/

theorem finiteItems_eq_map (items : List Json) : finiteItems items = items.map finiteOnly := by
  induction items with
  | nil => rfl
  | cons item items ih => rw [finiteItems, ih, List.map_cons]

theorem finiteMembers_eq_map (members : List (Text × Json)) :
    finiteMembers members = members.map fun member => (member.1, finiteOnly member.2) := by
  induction members with
  | nil => rfl
  | cons member members ih => rw [finiteMembers, ih, List.map_cons]

theorem exists_finiteOnly_scalar {s : Scalar} (readable : s.Readable) :
    ∃ shown : Scalar, finiteOnly (.scalar s) = .scalar shown ∧ shown.Readable := by
  cases s with
  | double x =>
    rw [finiteOnly]
    split
    · exact ⟨.double x, rfl, trivial⟩
    · exact ⟨.null, rfl, trivial⟩
  | _ => exact ⟨_, rfl, readable⟩

theorem readable_finiteOnly {room : Nat} {v : Json} (readable : v.Readable room) :
    v.finiteOnly.Readable room := by
  induction readable with
  | scalar readable =>
    obtain ⟨shown, eq, few⟩ := exists_finiteOnly_scalar readable
    rw [eq]
    exact .scalar few
  | str t => exact .str t
  | arr each ih =>
    refine .arr fun item member => ?_
    rw [finiteItems_eq_map] at member
    obtain ⟨before, there, rfl⟩ := List.mem_map.mp member
    exact ih before there
  | obj each ih =>
    refine .obj fun entry member => ?_
    rw [finiteMembers_eq_map] at member
    obtain ⟨before, there, rfl⟩ := List.mem_map.mp member
    exact ih before there

theorem settled_finiteOnly {v : Json} (settled : v.Settled) : v.finiteOnly.Settled := by
  induction settled with
  | scalar s =>
    cases s with
    | double x =>
      rw [finiteOnly]
      split <;> exact .scalar _
    | _ => exact .scalar _
  | str t => exact .str t
  | arr each ih =>
    refine .arr fun item member => ?_
    rw [finiteItems_eq_map] at member
    obtain ⟨before, there, rfl⟩ := List.mem_map.mp member
    exact ih before there
  | obj distinct each ih =>
    rw [finiteOnly, finiteMembers_eq_map]
    refine .obj ?_ fun entry member => ?_
    · rw [Table.Distinct, List.map_map]
      exact distinct
    · obtain ⟨before, there, rfl⟩ := List.mem_map.mp member
      exact ih before there

end Json

/-! ## Views -/

namespace View

/-- The value that a view is shown as, if its args can be shown. -/
def shown (view : View) : Json :=
  .obj
    [(Text.ofString "tryNo", .int view.tryNo),
      (Text.ofString "name", .str view.name),
      (Text.ofString "queryParams", .str view.queryParams),
      (Text.ofString "fieldSpec", .str view.fieldSpec),
      (Text.ofString "searchUrl", .str view.searchUrl),
      (Text.ofString "escapeQuery", .bool view.escapeQuery),
      (Text.ofString "numberOfRows", .int view.numberOfRows),
      (Text.ofString "searchEngine", .str view.engine.tag),
      (Text.ofString "args", view.args.finiteOnly),
      (Text.ofString "curatorVars",
        .obj (view.curatorVars.map fun (name, value) => (name, .str value)))]

/-- Whether a key of the args holds a surrogate. -/
def hasBrokenKey (view : View) : Bool := view.args.keys.any Text.hasSurrogate

/-- A view whose args have few enough levels is refused for nothing but their keys. -/
theorem toJson_eq {view : View} {levels : Nat} (nested : view.args.Nested levels)
    (fits : levels < shownLevels) :
    view.toJson = if view.hasBrokenKey then .error .unencodable else .ok view.shown := by
  rw [toJson, Json.exported_eq nested fits]
  change (if view.hasBrokenKey then _ else _ : Except Error Json) >>= _ = _
  cases view.hasBrokenKey <;> rfl

/-- A view whose args have few enough levels, and whose numbers have few enough digits. -/
structure Showable (view : View) : Prop where
  tryNo : (Scalar.int view.tryNo).Readable
  numberOfRows : (Scalar.int view.numberOfRows).Readable
  args : ∃ room < shownLevels, view.args.Readable room
  settled : view.args.Settled
  vars : Table.Distinct view.curatorVars

namespace Showable

variable {view : View} (showable : view.Showable)

include showable

/-- A view is refused for nothing but the keys of its args. -/
theorem toJson_eq :
    view.toJson = if view.hasBrokenKey then .error .unencodable else .ok view.shown := by
  obtain ⟨room, fits, readable⟩ := showable.args
  exact View.toJson_eq readable.nested fits

theorem readable_shown : view.shown.Readable (shownLevels + 1) := by
  obtain ⟨room, fits, readable⟩ := showable.args
  have args : view.args.finiteOnly.Readable shownLevels :=
    (Json.readable_finiteOnly readable).mono (Nat.le_of_lt fits)
  have vars : (Node.obj (view.curatorVars.map fun (name, value) => (name, Node.str value)) :
      Json).Readable shownLevels := by
    refine .obj fun member there => ?_
    obtain ⟨entry, -, rfl⟩ := List.mem_map.mp there
    exact .str _
  refine .obj ?_
  simp only [List.forall_mem_cons, List.not_mem_nil, false_imp_iff, implies_true, and_true]
  exact ⟨.scalar showable.tryNo, .str _, .str _, .str _, .str _, .scalar trivial,
    .scalar showable.numberOfRows, .str _, args, vars⟩

theorem settled_shown : view.shown.Settled := by
  have vars : Json.Settled
      (.obj (view.curatorVars.map fun (name, value) => (name, Node.str value))) := by
    refine .obj ?_ fun member there => ?_
    · rw [Table.Distinct, List.map_map]
      exact showable.vars
    · obtain ⟨entry, -, rfl⟩ := List.mem_map.mp there
      exact .str _
  refine .obj ?_ ?_
  · change List.Nodup (["tryNo", "name", "queryParams", "fieldSpec", "searchUrl", "escapeQuery",
      "numberOfRows", "searchEngine", "args", "curatorVars"].map Text.ofString)
    decide +kernel
  · simp only [List.forall_mem_cons, List.not_mem_nil, false_imp_iff, implies_true, and_true]
    exact ⟨.scalar _, .str _, .str _, .str _, .str _, .scalar _, .scalar _, .str _,
      Json.settled_finiteOnly showable.settled, vars⟩

end Showable

/-- Views are refused for nothing but the keys of their args. -/
theorem mapM_toJson {views : List View} (showable : ∀ view ∈ views, view.Showable) :
    views.mapM toJson =
      if views.any hasBrokenKey then .error .unencodable else .ok (views.map shown) := by
  induction views with
  | nil => rfl
  | cons view views ih =>
    obtain ⟨first, others⟩ := List.forall_mem_cons.mp showable
    rw [List.mapM_cons, first.toJson_eq, ih others, List.any_cons]
    cases view.hasBrokenKey
    · cases views.any hasBrokenKey <;> rfl
    · rfl

end View

end SearchTuning

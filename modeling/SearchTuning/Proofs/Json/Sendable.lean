import SearchTuning.Proofs.Json.Phrase
import SearchTuning.Proofs.Json.Readable
import SearchTuning.Proofs.Json.Strings
import SearchTuning.Proofs.Json.Walk

/-!
# Documents that can be sent

A document can be sent if its numbers are finite and none of its strings holds a surrogate.  A
literal may spell surrogates by their numbers, but then in pairs.  A mark never stands within a
pair, so a clean phrase that is put into a literal parts none; and neither do the parts of a literal
bring a pair together where the phrase is empty.
-/

namespace SearchTuning

/-! ## Literals -/

namespace Literal

/-- A literal that stands for a text without surrogates. -/
inductive Whole : List Piece → Prop where
  | nil : Whole []
  | plain {c : CodePoint} {rest : List Piece} (clean : c.isSurrogate = false) :
      Whole rest → Whole (.plain c :: rest)
  | named {c : CodePoint} {rest : List Piece} (clean : c.isSurrogate = false) :
      Whole rest → Whole (.named c :: rest)
  | unit {u : Fin 0x10000} {rest : List Piece} (clean : (unitPoint u).isSurrogate = false) :
      Whole rest → Whole (.unit u :: rest)
  | pair {u v : Fin 0x10000} {c : CodePoint} {rest : List Piece}
      (together : pairPoint? u v = some c) : Whole rest → Whole (.unit u :: .unit v :: rest)

theorem Whole.append {a b : List Piece} (front : Whole a) (back : Whole b) : Whole (a ++ b) := by
  induction front with
  | nil => exact back
  | plain clean _ ih => exact .plain clean ih
  | named clean _ ih => exact .named clean ih
  | unit clean _ ih => exact .unit clean ih
  | pair together _ ih => exact .pair together ih

end Literal

namespace Json

open Literal (Whole Piece pieces)
open Occurrences Template

end Json

/-! ## Documents -/

namespace Node

variable {σ τ : Type}

/-- A document with finite numbers, all of whose strings, keys included, satisfy a condition. -/
inductive Sendable (p : σ → Prop) : Node σ → Prop where
  | scalar {s : Scalar} (finite : ∀ x, s = .double x → x.isFinite = true) : Sendable p (.scalar s)
  | str {s : σ} (clean : p s) : Sendable p (.str s)
  | arr {items : List (Node σ)} (each : ∀ item ∈ items, Sendable p item) : Sendable p (.arr items)
  | obj {members : List (σ × Node σ)} (keys : ∀ member ∈ members, p member.1)
      (each : ∀ member ∈ members, Sendable p member.2) : Sendable p (.obj members)

theorem Sendable.map {p : σ → Prop} {n : Node σ} (sendable : n.Sendable p) {q : τ → Prop}
    {f : σ → τ} (keeps : ∀ s, p s → q (f s)) : (n.map f).Sendable q := by
  induction sendable with
  | scalar finite => exact .scalar finite
  | str clean => exact .str (keeps _ clean)
  | arr each ih =>
    refine .arr fun item member => ?_
    rw [mapItems_eq_map] at member
    obtain ⟨before, there, rfl⟩ := List.mem_map.mp member
    exact ih before there
  | obj keys each ih =>
    rw [Node.map, mapMembers_eq_map]
    constructor
    · intro entry member
      obtain ⟨before, there, rfl⟩ := List.mem_map.mp member
      exact keeps _ (keys before there)
    · intro entry member
      obtain ⟨before, there, rfl⟩ := List.mem_map.mp member
      exact ih before there

theorem Sendable.of_map {q : τ → Prop} {f : σ → τ} {n : Node σ} (sendable : (n.map f).Sendable q)
    {p : σ → Prop} (keeps : ∀ s, q (f s) → p s) : n.Sendable p := by
  generalize image : n.map f = m at sendable
  induction sendable generalizing n with
  | scalar finite =>
    cases n with
    | scalar s =>
      cases image
      exact .scalar finite
    | _ => cases image
  | str clean =>
    cases n with
    | str s =>
      cases image
      exact .str (keeps s clean)
    | _ => cases image
  | arr each ih =>
    cases n with
    | arr items =>
      cases image
      rw [mapItems_eq_map] at ih
      exact .arr fun item member => ih _ (List.mem_map_of_mem member) rfl
    | _ => cases image
  | obj keys each ih =>
    cases n with
    | obj members =>
      cases image
      rw [mapMembers_eq_map] at keys ih
      constructor
      · intro member there
        exact keeps _ (keys _ (List.mem_map_of_mem there))
      · intro member there
        exact ih _ (List.mem_map_of_mem there) rfl
    | _ => cases image

end Node

namespace Json

open Node (Sendable)
open Literal (Whole)
open Template

variable {p : Text → Prop}

mutual

theorem sendable_iff_forall : ∀ v : Json,
    v.Sendable p ↔ (∀ s ∈ v.scalars, s.isFinite = true) ∧ ∀ s ∈ v.strings, p s
  | .scalar s => by
      constructor
      · intro sendable
        refine ⟨List.forall_mem_singleton.mpr ?_, List.forall_mem_nil _⟩
        cases sendable with
        | scalar finite =>
          cases s with
          | double x => exact finite x rfl
          | _ => rfl
      · rintro ⟨finite, -⟩
        constructor
        rintro x rfl
        exact finite (.double x) List.mem_cons_self
  | .str s => by
      constructor
      · intro sendable
        cases sendable with
        | str clean => exact ⟨List.forall_mem_nil _, List.forall_mem_singleton.mpr clean⟩
      · rintro ⟨-, clean⟩
        exact .str (List.forall_mem_singleton.mp clean)
  | .arr items => by
      rw [Node.scalars, Node.strings, ← sendableItems_iff items]
      constructor
      · intro sendable
        cases sendable with
        | arr each => exact each
      · exact .arr
  | .obj members => by
      rw [Node.scalars, Node.strings, ← sendableMembers_iff members]
      constructor
      · intro sendable
        cases sendable with
        | obj keys each => exact ⟨keys, each⟩
      · rintro ⟨keys, each⟩
        exact .obj keys each

theorem sendableItems_iff : ∀ items : List Json,
    (∀ item ∈ items, item.Sendable p) ↔
      (∀ s ∈ Node.scalarsOfItems items, s.isFinite = true) ∧
        ∀ s ∈ Node.stringsOfItems items, p s
  | [] => by simp [Node.scalarsOfItems, Node.stringsOfItems]
  | item :: items => by
      rw [List.forall_mem_cons, sendable_iff_forall item, sendableItems_iff items,
        Node.scalarsOfItems, Node.stringsOfItems, List.forall_mem_append, List.forall_mem_append]
      exact and_and_and_comm

theorem sendableMembers_iff : ∀ members : List (Text × Json),
    ((∀ member ∈ members, p member.1) ∧ ∀ member ∈ members, member.2.Sendable p) ↔
      (∀ s ∈ Node.scalarsOfMembers members, s.isFinite = true) ∧
        ∀ s ∈ Node.stringsOfMembers members, p s
  | [] => by simp [Node.scalarsOfMembers, Node.stringsOfMembers]
  | (key, value) :: members => by
      rw [List.forall_mem_cons, List.forall_mem_cons, and_and_and_comm, sendable_iff_forall value,
        sendableMembers_iff members, Node.scalarsOfMembers, Node.stringsOfMembers,
        List.cons_append, List.forall_mem_cons, List.forall_mem_append, List.forall_mem_append]
      tauto

end

end Json

end SearchTuning

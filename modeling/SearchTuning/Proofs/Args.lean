import SearchTuning.Args
import SearchTuning.Proofs.Json.Readable
import SearchTuning.Proofs.QueryString.Parameters
import SearchTuning.Proofs.Variables

/-!
# What args can be

Whatever a template comes to, for either engine and with any phrase, is a value that some document
can be read as: it has few enough levels, its whole numbers few enough digits, and no object of it
has a key twice.  Parameters have two levels of containers, however many a reader goes into.
-/

namespace SearchTuning

namespace Engine

theorem readable_paramsValue (t : Text) :
    (paramsValue (QueryString.parse t)).Readable 2 ∧
      (paramsValue (QueryString.parse t)).Settled := by
  have distinct : Table.Distinct (QueryString.parse t) :=
    (QueryString.Params.gathered_nil.foldl (QueryString.pairs t)).distinct
  constructor
  · refine .obj fun member there => ?_
    obtain ⟨entry, -, rfl⟩ := List.mem_map.mp there
    refine .arr fun item inside => ?_
    obtain ⟨value, -, rfl⟩ := List.mem_map.mp inside
    exact .str value
  · refine .obj ?_ fun member there => ?_
    · rw [Table.Distinct, List.map_map]
      exact distinct
    · obtain ⟨entry, -, rfl⟩ := List.mem_map.mp there
      refine .arr fun item inside => ?_
      obtain ⟨value, -, rfl⟩ := List.mem_map.mp inside
      exact .str value

theorem readable_of_materialize [Platform] {engine : Engine} {t : Text} {v : Json}
    (materialized : engine.materialize t = .ok v) :
    v.Readable (max 2 Platform.reading) ∧ v.Settled := by
  cases engine with
  | solr =>
    cases materialized
    obtain ⟨readable, settled⟩ := readable_paramsValue t
    exact ⟨readable.mono (Nat.le_max_left _ _), settled⟩
  | es =>
    rw [materialize] at materialized
    split at materialized
    · next found =>
      cases materialized
      obtain ⟨readable, settled⟩ := Json.readable_of_read found
      exact ⟨readable.mono (Nat.le_max_right _ _), settled⟩
    · cases materialized
      exact ⟨.scalar trivial, .scalar _⟩
    · cases materialized

end Engine

namespace Args

theorem readable_of_compileFor [Platform] {tag : Text} {escapeQuery : Bool} {phrase : Option Text}
    {bindings : Bindings} {template : Text} {args : Json}
    (compiled : compileFor tag escapeQuery phrase bindings template = .ok args) :
    args.Readable (max 2 Platform.reading) ∧ args.Settled := by
  unfold compileFor at compiled
  obtain ⟨engine, -, compiled⟩ := exists_of_bind_eq_ok compiled
  obtain ⟨lookup, -, compiled⟩ := exists_of_bind_eq_ok compiled
  unfold compile materialize at compiled
  rw [mapError_eq_ok] at compiled
  exact Engine.readable_of_materialize compiled

end Args

end SearchTuning

import SearchTuning.Proofs.QueryString.Grammar
import SearchTuning.Proofs.QueryString.Parameters

/-!
# What a query string comes to

The parameters of a query string are the values that its segments hold: none is lost, none is made
up, and both keys and values stand in the order of the segments.  So the parameters of two query
strings in one are those of the first with those of the second behind them, and a segment that holds
nothing can stand anywhere.
-/

namespace SearchTuning.QueryString

/-! ## Keys once, where they first come -/

section

variable {α : Type} [BEq α] [LawfulBEq α] {l : List α} {a : α}

theorem eraseDups_concat_of_mem (there : a ∈ l) : (l ++ [a]).eraseDups = l.eraseDups := by
  rw [List.eraseDups_append, List.removeAll]
  simp [there]

theorem eraseDups_concat_of_not_mem (absent : a ∉ l) :
    (l ++ [a]).eraseDups = l.eraseDups ++ [a] := by
  rw [List.eraseDups_append, List.removeAll]
  simp [absent, List.eraseDups_cons]

/-- Items are left out before or after the repetitions are. -/
theorem eraseDups_filter (p : α → Bool) (l : List α) :
    (l.filter p).eraseDups = l.eraseDups.filter p := by
  induction l using List.reverseRecOn with
  | nil => rfl
  | append_singleton l a ih =>
    rw [List.filter_append]
    by_cases kept : p a = true
    · rw [List.filter_cons_of_pos kept, List.filter_nil]
      by_cases there : a ∈ l
      · rw [eraseDups_concat_of_mem there,
          eraseDups_concat_of_mem (List.mem_filter.mpr ⟨there, kept⟩), ih]
      · have absent : a ∉ l.filter p := fun member => there (List.mem_filter.mp member).1
        rw [eraseDups_concat_of_not_mem there, eraseDups_concat_of_not_mem absent, ih,
          List.filter_append, List.filter_cons_of_pos kept, List.filter_nil]
    · rw [List.filter_cons_of_neg kept, List.filter_nil, List.append_nil, ih]
      by_cases there : a ∈ l
      · rw [eraseDups_concat_of_mem there]
      · rw [eraseDups_concat_of_not_mem there, List.filter_append, List.filter_cons_of_neg kept,
          List.filter_nil, List.append_nil]

end

/-! ## Gathering -/

/-- The values of a key, in order. -/
def valuesOf (key : Text) (entries : List (Text × Text)) : List Text :=
  (entries.filter fun entry => entry.1 = key).map Prod.snd

theorem valuesOf_append (key : Text) (one two : List (Text × Text)) :
    valuesOf key (one ++ two) = valuesOf key one ++ valuesOf key two := by
  rw [valuesOf, List.filter_append, List.map_append]
  rfl

theorem valuesOf_eq_nil {key : Text} {entries : List (Text × Text)}
    (absent : key ∉ entries.map Prod.fst) : valuesOf key entries = [] := by
  rw [valuesOf, List.map_eq_nil_iff, List.filter_eq_nil_iff]
  intro entry member same
  exact absent (List.mem_map.mpr ⟨entry, member, of_decide_eq_true same⟩)

theorem gather_concat (entries : List (Text × Text)) (entry : Text × Text) :
    gather (entries ++ [entry]) = (gather entries).add entry := by
  rw [gather, List.foldl_append]
  rfl

theorem keys_gather (entries : List (Text × Text)) :
    (gather entries).map Prod.fst = (entries.map Prod.fst).eraseDups := by
  induction entries using List.reverseRecOn with
  | nil => rfl
  | append_singleton entries entry ih =>
    rw [gather_concat, Params.add, Table.keys_insert, ih, List.map_append, List.map_singleton]
    by_cases there : entry.1 ∈ entries.map Prod.fst
    · rw [if_pos (List.mem_eraseDups.mpr there), eraseDups_concat_of_mem there]
    · rw [if_neg fun member => there (List.mem_eraseDups.mp member),
        eraseDups_concat_of_not_mem there]

theorem get?_gather (key : Text) (entries : List (Text × Text)) :
    (Table.get? key (gather entries)).getD [] = valuesOf key entries := by
  induction entries using List.reverseRecOn with
  | nil => rfl
  | append_singleton entries entry ih =>
    rw [gather_concat, Params.add, valuesOf_append, ← ih, Table.get?_insert]
    by_cases here : entry.1 = key
    · simp [here, valuesOf]
    · simp [here, valuesOf]

theorem gathered_gather (entries : List (Text × Text)) : (gather entries).Gathered :=
  Params.gathered_nil.foldl entries

theorem eq_valuesOf_of_mem_gather {entries : List (Text × Text)} {entry : Text × List Text}
    (member : entry ∈ gather entries) : entry.2 = valuesOf entry.1 entries := by
  rw [← get?_gather, Table.get?_of_mem (gathered_gather entries).distinct member, Option.getD_some]

/-- The parameters are told by the entries: each key once, with all its values. -/
theorem gather_eq (entries : List (Text × Text)) :
    gather entries =
      (entries.map Prod.fst).eraseDups.map fun key => (key, valuesOf key entries) := by
  have same : ∀ entry ∈ gather entries, entry = (entry.1, valuesOf entry.1 entries) :=
    fun entry member => Prod.ext rfl (eq_valuesOf_of_mem_gather member)
  rw [← keys_gather, List.map_map]
  exact (List.map_id _).symm.trans (List.map_congr_left same)

/-! ## Two query strings in one -/

/-- Parameters with others behind them: the values of each key are appended to those that it has,
and new keys come last. -/
def Params.merge (one two : Params) : Params :=
  (one.map fun entry => (entry.1, entry.2 ++ (Table.get? entry.1 two).getD [])) ++
    two.filter fun entry => entry.1 ∉ one.map Prod.fst

theorem gather_append (one two : List (Text × Text)) :
    gather (one ++ two) = (gather one).merge (gather two) := by
  have first : (gather one).map
      (fun entry => (entry.1, entry.2 ++ (Table.get? entry.1 (gather two)).getD [])) =
      (one.map Prod.fst).eraseDups.map fun key => (key, valuesOf key (one ++ two)) := by
    rw [gather_eq one, List.map_map]
    refine List.map_congr_left fun key _ => ?_
    simp only [Function.comp, get?_gather, valuesOf_append]
  have last : (gather two).filter (fun entry => entry.1 ∉ (gather one).map Prod.fst) =
      ((two.map Prod.fst).removeAll (one.map Prod.fst)).eraseDups.map
        fun key => (key, valuesOf key (one ++ two)) := by
    rw [List.removeAll, eraseDups_filter, gather_eq two, List.filter_map, keys_gather]
    simp only [Function.comp_def, List.mem_eraseDups, List.elem_eq_mem, decide_not]
    refine List.map_congr_left fun key member => ?_
    have absent : key ∉ one.map Prod.fst := by simpa using (List.mem_filter.mp member).2
    rw [valuesOf_append, valuesOf_eq_nil absent, List.nil_append]
  rw [Params.merge, first, last, gather_eq, List.map_append, List.eraseDups_append, List.map_append]

/-! ## Segments -/

/-- The keys and values that segments hold, one behind the other; segments that hold none are passed
over. -/
inductive Reads : List Text → List (Text × Text) → Prop where
  | nil : Reads [] []
  | kept {segment : Text} {entry : Text × Text} (held : Holds segment entry)
      {segments : List Text} {entries : List (Text × Text)} (rest : Reads segments entries) :
      Reads (segment :: segments) (entry :: entries)
  | dropped {segment : Text} (malformed : ∀ entry, ¬ Holds segment entry)
      {segments : List Text} {entries : List (Text × Text)} (rest : Reads segments entries) :
      Reads (segment :: segments) entries

theorem reads_filterMap (segments : List Text) : Reads segments (segments.filterMap pair?) := by
  induction segments with
  | nil => exact .nil
  | cons segment segments ih =>
    cases held : pair? segment with
    | none =>
      rw [List.filterMap_cons_none held]
      exact .dropped (pair?_eq_none_iff.mp held) ih
    | some entry =>
      rw [List.filterMap_cons_some held]
      exact .kept (pair?_eq_some_iff.mp held) ih

/-- The segments of a text: what stands between its ampersands. -/
def SegmentsOf (t : Text) (segments : List Text) : Prop :=
  segments ≠ [] ∧ t = Text.join ['&'] segments ∧ ∀ segment ∈ segments, CodePoint.ofChar '&' ∉ segment

theorem segmentsOf_splitOn (t : Text) : SegmentsOf t (t.splitOn '&') := by
  obtain ⟨first, others, eq, -⟩ := Text.exists_splitOn_eq_cons '&' t
  refine ⟨by simp [eq], (Text.join_splitOn '&' t).symm, fun segment => Text.not_mem_of_mem_splitOn⟩

/-- The parameters are what the entries come to. -/
structure Collected (entries : List (Text × Text)) (params : Params) : Prop where
  /-- No key is empty. -/
  keyed : ∀ entry ∈ params, entry.1 ≠ []
  /-- Each key comes once. -/
  distinct : Table.Distinct params
  /-- Keys stand where they first come. -/
  ordered : params.map Prod.fst = (entries.map Prod.fst).eraseDups
  /-- Each key has a value. -/
  valued : ∀ entry ∈ params, entry.2 ≠ []
  /-- The values of a key are all that the segments hold for it. -/
  exact : ∀ entry ∈ params, entry.2 = valuesOf entry.1 entries

theorem Holds.key_ne_nil {segment : Text} {entry : Text × Text} (held : Holds segment entry) :
    entry.1 ≠ [] := by
  obtain ⟨rawKey, rawValue, -, -, filled, key, -⟩ := held
  exact decode_ne_nil filled (decode_eq_some_iff.mpr key)

theorem Reads.keyed {segments : List Text} {entries : List (Text × Text)}
    (reads : Reads segments entries) : ∀ entry ∈ entries, entry.1 ≠ [] := by
  induction reads with
  | nil => simp
  | kept held rest ih => exact List.forall_mem_cons.mpr ⟨held.key_ne_nil, ih⟩
  | dropped malformed rest ih => exact ih

theorem collected_gather {segments : List Text} {entries : List (Text × Text)}
    (reads : Reads segments entries) : Collected entries (gather entries) where
  keyed := by
    intro entry member
    have key : entry.1 ∈ entries.map Prod.fst := by
      rw [← List.mem_eraseDups, ← keys_gather]
      exact List.mem_map_of_mem member
    obtain ⟨first, read, same⟩ := List.mem_map.mp key
    rw [← same]
    exact reads.keyed first read
  distinct := (gathered_gather entries).distinct
  ordered := keys_gather entries
  valued := (gathered_gather entries).valued
  exact := fun _ => eq_valuesOf_of_mem_gather

/-! ## Whole texts -/

theorem pairs_append (a b : Text) :
    pairs (a ++ CodePoint.ofChar '&' :: b) = pairs a ++ pairs b := by
  rw [pairs, Text.splitOn_append_cons, List.filterMap_append]
  rfl

theorem parse_append (a b : Text) :
    parse (a ++ CodePoint.ofChar '&' :: b) = (parse a).merge (parse b) := by
  rw [parse, pairs_append, gather_append]
  rfl

/-- A segment that holds nothing gives no entry. -/
theorem pairs_of_malformed {m : Text} (one : CodePoint.ofChar '&' ∉ m)
    (malformed : ∀ entry, ¬ Holds m entry) : pairs m = [] := by
  rw [pairs, Text.splitOn_of_not_mem one,
    List.filterMap_cons_none (pair?_eq_none_iff.mpr malformed), List.filterMap_nil]

/-- A query string comes to exactly the values that its segments hold, in order.  Two in one come to
the values of the first with those of the second behind them, and a segment that holds nothing can
be put anywhere. -/
theorem query_string_comes_to_its_segments [Platform] :
    (∀ t, ∃ segments entries params, SegmentsOf t segments ∧ Reads segments entries ∧
      Collected entries params ∧
      Engine.materialize .solr t = .ok (Engine.paramsValue params)) ∧
    (∀ a b, ∃ one two, Engine.materialize .solr a = .ok (Engine.paramsValue one) ∧
      Engine.materialize .solr b = .ok (Engine.paramsValue two) ∧
      Engine.materialize .solr (a ++ CodePoint.ofChar '&' :: b) =
        .ok (Engine.paramsValue (one.merge two))) ∧
    ∀ m, CodePoint.ofChar '&' ∉ m → (∀ entry, ¬ Holds m entry) → ∀ a b,
      Engine.materialize .solr (m ++ CodePoint.ofChar '&' :: b) = Engine.materialize .solr b ∧
      Engine.materialize .solr (a ++ CodePoint.ofChar '&' :: m) = Engine.materialize .solr a ∧
      Engine.materialize .solr (a ++ CodePoint.ofChar '&' :: (m ++ CodePoint.ofChar '&' :: b)) =
        Engine.materialize .solr (a ++ CodePoint.ofChar '&' :: b) := by
  refine ⟨?_, ?_, ?_⟩
  · intro t
    have reads := reads_filterMap (t.splitOn '&')
    exact ⟨t.splitOn '&', pairs t, parse t, segmentsOf_splitOn t, reads, collected_gather reads, rfl⟩
  · intro a b
    refine ⟨parse a, parse b, rfl, rfl, ?_⟩
    change Except.ok (Engine.paramsValue (parse (a ++ CodePoint.ofChar '&' :: b))) = _
    rw [parse_append]
  · intro m one malformed a b
    have nothing := pairs_of_malformed one malformed
    simp only [Engine.materialize, parse, pairs_append, nothing, List.nil_append, List.append_nil,
      and_self]

/-- A segment with a broken escape between two others. -/
theorem query_string_comes_to_its_segments_broken :
    letI := Platform.usual
    (∀ entry, ¬ Holds (Text.ofString "b=%zz") entry) ∧
      Engine.materialize .solr (Text.ofString "a=1&b=%zz&a=2") =
        .ok (.obj [(['a'], .arr [.str ['1'], .str ['2']])]) := by
  have malformed : ∀ entry, ¬ Holds (Text.ofString "b=%zz") entry :=
    pair?_eq_none_iff.mp (by decide)
  have without := (@query_string_comes_to_its_segments Platform.usual).2.2
    (Text.ofString "b=%zz") (by decide) malformed (Text.ofString "a=1") (Text.ofString "a=2")
  refine ⟨malformed, without.2.2.trans ?_⟩
  decide

end SearchTuning.QueryString

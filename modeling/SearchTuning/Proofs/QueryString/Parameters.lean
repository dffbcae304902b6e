import SearchTuning.Proofs.QueryString.Phrase
import SearchTuning.Proofs.Table

/-!
# Parameters written and read back

What a query string holds can be written as a query string again: its keys are not empty and come
once, each with its values.  Written so, it is read back as it was, with its keys and values in
order, whatever they hold.
-/

namespace SearchTuning.QueryString

open Utf8 (Piece)

/-! ## What is read -/

/-- A code point that needs no decoding stands in the text itself. -/
theorem mem_of_unescape {t : Text} {pieces : List Piece} (read : unescape t = some pieces)
    {c : CodePoint} (member : Piece.point c ∈ pieces) : c ∈ t := by
  induction t using escapeInduction generalizing pieces with
  | nil =>
    cases read
    cases member
  | escape h l t x y high low ih =>
    rw [unescape_escape high low] at read
    obtain ⟨others, found, rfl⟩ := Option.map_eq_some_iff.mp read
    rcases List.mem_cons.mp member with here | later
    · cases here
    · exact List.mem_cons_of_mem _ (List.mem_cons_of_mem _ (List.mem_cons_of_mem _ (ih found later)))
  | broken t broken =>
    rw [unescape_broken broken] at read
    cases read
  | plain d t plain ih =>
    rw [unescape_plain plain] at read
    obtain ⟨others, found, rfl⟩ := Option.map_eq_some_iff.mp read
    rcases List.mem_cons.mp member with here | later
    · rw [plainPiece] at here
      split at here
      · cases here
      · split at here
        · cases here
        · cases here
          exact List.mem_cons_self
    · exact List.mem_cons_of_mem d (ih found later)

theorem decode_ne_nil {raw text : Text} (filled : raw ≠ []) (decoded : decode raw = some text) :
    text ≠ [] := by
  rintro rfl
  obtain ⟨pieces, read, rest⟩ := Option.bind_eq_some_iff.mp decoded
  have none := (Utf8.eq_nil_of_decodeFrom rest).2
  subst none
  induction raw using escapeInduction with
  | nil => exact filled rfl
  | escape h l t x y high low ih =>
    rw [unescape_escape high low] at read
    obtain ⟨others, -, eq⟩ := Option.map_eq_some_iff.mp read
    cases eq
  | broken t broken =>
    rw [unescape_broken broken] at read
    cases read
  | plain c t plain ih =>
    rw [unescape_plain plain] at read
    obtain ⟨others, -, eq⟩ := Option.map_eq_some_iff.mp read
    cases eq

theorem hasSurrogate_of_decode {raw text : Text} (whole : ∀ c ∈ raw, c.isSurrogate = false)
    (decoded : decode raw = some text) : text.hasSurrogate = false := by
  obtain ⟨pieces, read, rest⟩ := Option.bind_eq_some_iff.mp decoded
  exact Utf8.hasSurrogate_of_decodeFrom (fun c member => whole c (mem_of_unescape read member)) rest

/-- A key that is read is not empty, and no surrogate comes in by reading. -/
theorem of_mem_pairs {t : Text} (whole : t.hasSurrogate = false) {entry : Text × Text}
    (member : entry ∈ pairs t) :
    entry.1 ≠ [] ∧ entry.1.hasSurrogate = false ∧ entry.2.hasSurrogate = false := by
  obtain ⟨segment, listed, kept⟩ := List.mem_filterMap.mp member
  obtain ⟨key, value, cut, filled, first, second⟩ := exists_cut?_of_pair? kept
  obtain ⟨keyInside, valueInside⟩ := infix_of_cut? cut
  have clean : ∀ c ∈ segment, c.isSurrogate = false := fun c inside =>
    Text.hasSurrogate_eq_false_iff.mp whole c (Text.mem_of_mem_splitOn listed inside)
  refine ⟨decode_ne_nil filled first, ?_, ?_⟩
  · exact hasSurrogate_of_decode (fun c inside => clean c (keyInside.subset inside)) first
  · exact hasSurrogate_of_decode (fun c inside => clean c (valueInside.subset inside)) second

/-! ## Writing -/

/-- A code point in which keys and values are written: one that needs no escape, a percent sign, or
the plus sign that stands for a space. -/
def Written (c : CodePoint) : Prop := isUnreserved c = true ∨ c = '%' ∨ c = '+'

theorem Written.inert {c : CodePoint} (written : Written c) : Inert c := by
  rcases written with free | rfl | rfl
  · obtain ⟨low, high, -, ampersand, -, equals⟩ := isUnreserved_bounds free
    exact ⟨low, high, ampersand, equals⟩
  · exact ⟨by decide, by decide, by decide, by decide⟩
  · exact ⟨by decide, by decide, by decide, by decide⟩

theorem isUnreserved_upperHex : ∀ d : Fin 16, isUnreserved (CodePoint.upperHex d) = true := by
  decide

theorem written_quotePlus {t : Text} : ∀ c ∈ quotePlus t, Written c := by
  intro c member
  obtain ⟨d, -, member⟩ := List.mem_flatMap.mp member
  rw [quotePlusPoint, quotePoint] at member
  split at member
  · exact .inr (.inr (List.mem_singleton.mp member))
  split at member
  · next free =>
    rw [List.mem_singleton.mp member]
    exact .inl free
  · obtain ⟨b, -, member⟩ := List.mem_flatMap.mp member
    simp only [escapeOctet, List.mem_cons, List.not_mem_nil, or_false] at member
    rcases member with rfl | rfl | rfl
    · exact .inr (.inl rfl)
    · exact .inl (isUnreserved_upperHex _)
    · exact .inl (isUnreserved_upperHex _)

theorem unescape_quotePlusPoint (c : CodePoint) (rest : Text) :
    unescape (quotePlusPoint c ++ rest) =
      (unescape rest).map ((Utf8.encodePoint c).map Piece.octet ++ ·) := by
  rw [quotePlusPoint]
  split
  · next space =>
    subst space
    exact unescape_plain (by decide) rest
  · exact unescape_quotePoint c rest

theorem unescape_quotePlus (t : Text) :
    unescape (quotePlus t) = some ((Utf8.encode t).map Piece.octet) := by
  induction t with
  | nil => rfl
  | cons c t ih =>
    rw [quotePlus, List.flatMap_cons, unescape_quotePlusPoint, ← quotePlus, ih, Option.map_some,
      Utf8.encode, Utf8.encode, List.flatMap_cons, List.map_append]

/-- A text is read back as it was, spaces and signs included, unless it holds a surrogate. -/
theorem decode_quotePlus {t : Text} (whole : t.hasSurrogate = false) :
    decode (quotePlus t) = some t := by
  rw [decode, unescape_quotePlus, Option.bind_some, Utf8.decode_encode whole]

theorem quotePlus_ne_nil {t : Text} (filled : t ≠ []) : quotePlus t ≠ [] := by
  obtain ⟨c, t, rfl⟩ := List.exists_cons_of_ne_nil filled
  intro nothing
  have read := unescape_quotePlus (c :: t)
  rw [nothing, Utf8.encode, List.flatMap_cons] at read
  obtain ⟨b, octets, eq, -⟩ := Utf8.encodePoint_begins c
  rw [eq] at read
  cases read

/-! ## A key with its value -/

theorem written_or_equals_renderPair {entry : Text × Text} :
    ∀ c ∈ renderPair entry, Written c ∨ c = '=' := by
  intro c member
  rw [renderPair, List.mem_append, List.mem_cons] at member
  rcases member with key | rfl | value
  · exact .inl (written_quotePlus c key)
  · exact .inr rfl
  · exact .inl (written_quotePlus c value)

theorem ampersand_not_mem_renderPair (entry : Text × Text) :
    CodePoint.ofChar '&' ∉ renderPair entry := by
  intro member
  rcases written_or_equals_renderPair _ member with written | same
  · exact written.inert.2.2.1 rfl
  · exact absurd same (by decide)

theorem trim_renderPair (entry : Text × Text) : (renderPair entry).trim = renderPair entry := by
  refine Text.trimBy_of_forall fun c member => ?_
  rcases written_or_equals_renderPair c member with written | rfl
  · exact written.inert.isBlank
  · decide

theorem cut?_renderPair (entry : Text × Text) :
    (renderPair entry).cut? '=' = some (quotePlus entry.1, quotePlus entry.2) := by
  have absent : CodePoint.ofChar '=' ∉ quotePlus entry.1 := fun member =>
    (written_quotePlus _ member).inert.2.2.2 rfl
  rw [renderPair, Text.cut?_append absent, Text.cut?, if_pos rfl, Option.map_some]
  simp only [List.append_nil]

/-- A key with its value is read back, if the key is not empty. -/
theorem pair?_renderPair {entry : Text × Text} (filled : entry.1 ≠ [])
    (keyWhole : entry.1.hasSurrogate = false) (valueWhole : entry.2.hasSurrogate = false) :
    pair? (renderPair entry) = some entry := by
  have cut := cut?_renderPair entry
  rw [← trim_renderPair] at cut
  rw [pair?_of_cut? cut (quotePlus_ne_nil filled), decode_quotePlus keyWhole,
    decode_quotePlus valueWhole]
  rfl

/-! ## Gathering -/

namespace Params

/-- Keys come once, each with at least one value. -/
structure Gathered (params : Params) : Prop where
  distinct : Table.Distinct params
  valued : ∀ entry ∈ params, entry.2 ≠ []

theorem gathered_nil : Gathered [] := ⟨Table.distinct_nil, by simp⟩

theorem Gathered.add {params : Params} (gathered : params.Gathered) (entry : Text × Text) :
    (params.add entry).Gathered where
  distinct := gathered.distinct.insert _ _
  valued := by
    intro other member
    rcases Table.mem_insert gathered.distinct member with rfl | ⟨there, -⟩
    · exact List.append_ne_nil_of_right_ne_nil _ (List.cons_ne_nil _ _)
    · exact gathered.valued other there

theorem Gathered.foldl {params : Params} (gathered : params.Gathered)
    (entries : List (Text × Text)) : Gathered (entries.foldl Params.add params) := by
  induction entries generalizing params with
  | nil => exact gathered
  | cons entry entries ih => exact ih (gathered.add entry)

/-- What holds of the entries holds of the keys with the values that gather under them. -/
theorem forall_foldl {P : Text × Text → Prop} {params : Params} (gathered : params.Gathered)
    (before : ∀ entry ∈ params, ∀ value ∈ entry.2, P (entry.1, value))
    {entries : List (Text × Text)} (given : ∀ entry ∈ entries, P entry) :
    ∀ entry ∈ entries.foldl Params.add params, ∀ value ∈ entry.2, P (entry.1, value) := by
  induction entries generalizing params with
  | nil => exact before
  | cons added entries ih =>
    apply ih (gathered.add added)
    · intro entry member value inside
      rcases Table.mem_insert gathered.distinct member with rfl | ⟨there, -⟩
      · rcases List.mem_append.mp inside with old | new
        · cases found : Table.get? added.1 params with
          | none =>
            rw [found] at old
            cases old
          | some values =>
            rw [found] at old
            exact before _ (Table.mem_of_get? found) value old
        · rw [List.mem_singleton.mp new]
          exact given added List.mem_cons_self
      · exact before entry there value inside
    · exact fun entry member => given entry (List.mem_cons_of_mem added member)

theorem foldl_add_values {key : Text} {params : Params} (absent : key ∉ params.map Prod.fst)
    (old new : List Text) :
    (new.map fun value => (key, value)).foldl Params.add (params ++ [(key, old)]) =
      params ++ [(key, old ++ new)] := by
  induction new generalizing old with
  | nil => rw [List.append_nil, List.map_nil, List.foldl_nil]
  | cons value new ih =>
    have added : Params.add (params ++ [(key, old)]) (key, value) =
        params ++ [(key, old ++ [value])] := by
      rw [Params.add, Table.get?_append_of_absent absent, Table.insert_append_of_absent absent,
        Table.get?, if_pos rfl, Table.insert, if_pos rfl, Option.getD_some]
    rw [List.map_cons, List.foldl_cons, added, ih, List.append_assoc, List.singleton_append]

/-- Entries that were gathered once gather again as they were. -/
theorem gather_entries {params : Params} (gathered : params.Gathered) :
    gather params.entries = params := by
  have onto : ∀ (rest done : Params), Gathered (done ++ rest) →
      rest.entries.foldl Params.add done = done ++ rest := by
    intro rest
    induction rest with
    | nil =>
      intro done _
      rw [List.append_nil]
      rfl
    | cons entry rest ih =>
      obtain ⟨key, values⟩ := entry
      intro done gathered
      have distinct := gathered.distinct
      rw [Table.Distinct, List.map_append, List.map_cons] at distinct
      have absent : key ∉ done.map Prod.fst := fun there =>
        List.disjoint_of_nodup_append distinct there List.mem_cons_self
      obtain ⟨value, values, rfl⟩ := List.exists_cons_of_ne_nil
        (gathered.valued (key, values) (List.mem_append_right done List.mem_cons_self))
      have first : Params.add done (key, value) = done ++ [(key, [value])] := by
        have there := Table.get?_append_of_absent (ν := List Text) absent []
        have inserted := Table.insert_append_of_absent (ν := List Text) absent [value] []
        rw [List.append_nil] at there inserted
        rw [Params.add, there, Table.get?, Option.getD_none, List.nil_append, inserted, Table.insert]
      rw [entries, List.flatMap_cons, ← entries, List.foldl_append]
      simp only [List.map_cons, List.foldl_cons]
      rw [first, foldl_add_values absent, List.singleton_append]
      rw [List.append_cons] at gathered
      rw [ih _ gathered, ← List.append_cons]
  exact onto params [] gathered

/-- Parameters that a query string can hold. -/
structure Writable (params : Params) : Prop extends Gathered params where
  keyed : ∀ entry ∈ params, entry.1 ≠ []
  whole : ∀ entry ∈ params.entries, entry.1.hasSurrogate = false ∧ entry.2.hasSurrogate = false

theorem mem_entries {params : Params} {entry : Text × Text} :
    entry ∈ params.entries ↔ ∃ values, (entry.1, values) ∈ params ∧ entry.2 ∈ values := by
  rw [entries, List.mem_flatMap]
  constructor
  · rintro ⟨⟨key, values⟩, there, listed⟩
    obtain ⟨value, inside, rfl⟩ := List.mem_map.mp listed
    exact ⟨values, there, inside⟩
  · rintro ⟨values, there, inside⟩
    exact ⟨_, there, List.mem_map.mpr ⟨entry.2, inside, rfl⟩⟩

end Params

open Params

/-- What is read from a query string without surrogates can be written. -/
theorem writable_parse {t : Text} (whole : t.hasSurrogate = false) : (parse t).Writable := by
  have gathered : Gathered (parse t) := gathered_nil.foldl (pairs t)
  have given : ∀ entry ∈ parse t, ∀ value ∈ entry.2, entry.1 ≠ [] ∧
      Text.hasSurrogate entry.1 = false ∧ Text.hasSurrogate value = false :=
    forall_foldl
      (P := fun entry => entry.1 ≠ [] ∧ entry.1.hasSurrogate = false ∧ entry.2.hasSurrogate = false)
      gathered_nil (by simp) fun entry member => of_mem_pairs whole member
  refine { gathered with keyed := ?_, whole := ?_ }
  · intro entry member
    obtain ⟨value, values, eq⟩ := List.exists_cons_of_ne_nil (gathered.valued entry member)
    exact (given entry member value (eq ▸ List.mem_cons_self)).1
  · intro entry member
    obtain ⟨values, there, inside⟩ := mem_entries.mp member
    exact (given _ there _ inside).2

/-- Parameters that can be written are read back as they were, keys and values in their order. -/
theorem parse_render {params : Params} (writable : params.Writable) :
    parse (render params) = params := by
  have keyed : ∀ entry ∈ params.entries, entry.1 ≠ [] := by
    intro entry member
    obtain ⟨values, there, -⟩ := mem_entries.mp member
    exact writable.keyed _ there
  have back : pairs (render params) = params.entries := by
    rw [pairs, render]
    change (Text.splitOn '&' (Text.join ['&'] _)).filterMap pair? = _
    cases listed : params.entries with
    | nil => decide
    | cons entry entries =>
      rw [Text.splitOn_join (by simp) fun piece member => by
        obtain ⟨other, -, rfl⟩ := List.mem_map.mp member
        exact ampersand_not_mem_renderPair other]
      rw [← listed, List.filterMap_map]
      have same : ∀ e ∈ params.entries, (pair? ∘ renderPair) e = some e := fun e member =>
        pair?_renderPair (keyed e member) (writable.whole e member).1 (writable.whole e member).2
      rw [List.filterMap_congr same, List.filterMap_some]
  rw [parse, back, gather_entries writable.toGathered]

end SearchTuning.QueryString

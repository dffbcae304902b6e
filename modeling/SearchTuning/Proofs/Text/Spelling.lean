import SearchTuning.Proofs.Text.Utf8

/-!
# What decodes, by its spelling

Pieces are decoded to a text exactly if they spell it, code point after code point.  The decoder
takes octets one at a time and never goes back; a spelling says of whole code points which octets
stand for them, and nothing of states.
-/

namespace SearchTuning.Utf8

/-- The pieces spell the text: each of its code points stands as itself, or its octets stand for it
one behind the other.  No octets stand for a surrogate. -/
inductive Spells : Text → List Piece → Prop where
  | nil : Spells [] []
  | point (c : CodePoint) {t : Text} {pieces : List Piece} (rest : Spells t pieces) :
      Spells (c :: t) (.point c :: pieces)
  | octets {c : CodePoint} (whole : c.isSurrogate = false) {t : Text} {pieces : List Piece}
      (rest : Spells t pieces) : Spells (c :: t) ((encodePoint c).map Piece.octet ++ pieces)

theorem decode_of_spells {t : Text} {pieces : List Piece} (spells : Spells t pieces) :
    decode pieces = some t := by
  induction spells with
  | nil => rfl
  | point c rest ih =>
    rw [decode] at ih ⊢
    rw [decodeFrom_point, ih, Option.map_some]
  | octets whole rest ih =>
    rw [decode] at ih ⊢
    rw [decodeFrom_encodePoint whole, ih, Option.map_some]

/-! ## Octets that go on with a sequence -/

theorem point?_eq_some {n least : Nat} {c : CodePoint} (found : point? n least = some c) :
    c.val = n ∧ least ≤ n ∧ c.isSurrogate = false := by
  have whole := isSurrogate_of_point? found
  unfold point? at found
  split at found
  · split at found
    · cases found
    · next allowed =>
      cases found
      exact ⟨rfl, by omega, whole⟩
  · cases found

/-- Inside a sequence an octet must come that goes on with it. -/
theorem exists_of_decodeFrom_within {missing bits least : Nat} {pieces : List Piece} {t : Text}
    (decoded : decodeFrom (.within missing bits least) pieces = some t) :
    ∃ b rest taken, pieces = .octet b :: rest ∧ (0x80 ≤ b.val ∧ b.val < 0xC0) ∧
      State.step (.within missing bits least) b = some taken ∧
      (decodeFrom taken.2 rest).map (taken.1 ++ ·) = some t := by
  cases pieces with
  | nil => cases decoded
  | cons piece rest =>
    cases piece with
    | point c => cases decoded
    | octet b =>
      rw [decodeFrom_octet] at decoded
      obtain ⟨taken, stepped, later⟩ := Option.bind_eq_some_iff.mp decoded
      have bounds : 0x80 ≤ b.val ∧ b.val < 0xC0 := by
        rw [State.step] at stepped
        split at stepped
        · assumption
        · cases stepped
      exact ⟨b, rest, taken, rfl, bounds, stepped, later⟩

theorem exists_of_within_succ {missing bits least : Nat} {pieces : List Piece} {t : Text}
    (decoded : decodeFrom (.within (missing + 1) bits least) pieces = some t) :
    ∃ b rest, pieces = .octet b :: rest ∧ (0x80 ≤ b.val ∧ b.val < 0xC0) ∧
      decodeFrom (.within missing (bits * 0x40 + (b.val - 0x80)) least) rest = some t := by
  obtain ⟨b, rest, taken, rfl, bounds, stepped, later⟩ := exists_of_decodeFrom_within decoded
  rw [State.step, if_pos bounds] at stepped
  cases stepped
  obtain ⟨u, here, rfl⟩ := Option.map_eq_some_iff.mp later
  exact ⟨b, rest, rfl, bounds, here⟩

theorem exists_of_within_zero {bits least : Nat} {pieces : List Piece} {t : Text}
    (decoded : decodeFrom (.within 0 bits least) pieces = some t) :
    ∃ b rest c u, pieces = .octet b :: rest ∧ (0x80 ≤ b.val ∧ b.val < 0xC0) ∧
      c.val = bits * 0x40 + (b.val - 0x80) ∧ least ≤ c.val ∧ c.isSurrogate = false ∧
      decode rest = some u ∧ t = c :: u := by
  obtain ⟨b, rest, taken, rfl, bounds, stepped, later⟩ := exists_of_decodeFrom_within decoded
  rw [State.step, if_pos bounds] at stepped
  obtain ⟨c, found, rfl⟩ := Option.map_eq_some_iff.mp stepped
  obtain ⟨number, enough, whole⟩ := point?_eq_some found
  obtain ⟨u, here, rfl⟩ := Option.map_eq_some_iff.mp later
  exact ⟨b, rest, c, u, rfl, bounds, number, by omega, whole, here, rfl⟩

/-! ## The octets of one code point -/

theorem encodePoint_one {c : CodePoint} {b : Octet} (number : c.val = b.val) (ascii : b.val < 0x80) :
    encodePoint c = [b] := by
  rw [encodePoint, dif_pos (number ▸ ascii), List.singleton_inj]
  exact Fin.ext number

theorem encodePoint_two {c : CodePoint} {a b : Octet} (lead : 0xC0 ≤ a.val ∧ a.val < 0xE0)
    (last : 0x80 ≤ b.val ∧ b.val < 0xC0) (least : 0x80 ≤ c.val)
    (number : c.val = (a.val - 0xC0) * 0x40 + (b.val - 0x80)) : encodePoint c = [a, b] := by
  rw [encodePoint, dif_neg (by omega), dif_pos (by omega)]
  simp only [List.cons.injEq, Fin.ext_iff, and_true]
  omega

theorem encodePoint_three {c : CodePoint} {a b d : Octet} (lead : 0xE0 ≤ a.val ∧ a.val < 0xF0)
    (second : 0x80 ≤ b.val ∧ b.val < 0xC0) (last : 0x80 ≤ d.val ∧ d.val < 0xC0)
    (least : 0x800 ≤ c.val)
    (number : c.val = ((a.val - 0xE0) * 0x40 + (b.val - 0x80)) * 0x40 + (d.val - 0x80)) :
    encodePoint c = [a, b, d] := by
  rw [encodePoint, dif_neg (by omega), dif_neg (by omega), dif_pos (by omega)]
  simp only [List.cons.injEq, Fin.ext_iff, and_true]
  omega

theorem encodePoint_four {c : CodePoint} {a b d e : Octet} (lead : 0xF0 ≤ a.val ∧ a.val < 0xF8)
    (second : 0x80 ≤ b.val ∧ b.val < 0xC0) (third : 0x80 ≤ d.val ∧ d.val < 0xC0)
    (last : 0x80 ≤ e.val ∧ e.val < 0xC0) (least : 0x10000 ≤ c.val)
    (number : c.val =
      (((a.val - 0xF0) * 0x40 + (b.val - 0x80)) * 0x40 + (d.val - 0x80)) * 0x40 + (e.val - 0x80)) :
    encodePoint c = [a, b, d, e] := by
  rw [encodePoint, dif_neg (by omega), dif_neg (by omega), dif_neg (by omega)]
  simp only [List.cons.injEq, Fin.ext_iff, and_true]
  omega

/-- Octets at the front are those of a whole code point. -/
theorem exists_of_decode_octet {b : Octet} {pieces : List Piece} {t : Text}
    (decoded : decode (.octet b :: pieces) = some t) :
    ∃ c rest u, c.isSurrogate = false ∧
      .octet b :: pieces = (encodePoint c).map Piece.octet ++ rest ∧
      decode rest = some u ∧ t = c :: u := by
  rw [decode, decodeFrom_octet] at decoded
  obtain ⟨⟨done, next⟩, stepped, others⟩ := Option.bind_eq_some_iff.mp decoded
  obtain ⟨u, later, rfl⟩ := Option.map_eq_some_iff.mp others
  have below := b.isLt
  rw [State.step] at stepped
  split at stepped
  · next ascii =>
    cases stepped
    refine ⟨⟨b.val, by omega⟩, pieces, u, ?_, ?_, later, rfl⟩
    · simp only [CodePoint.isSurrogate, Bool.and_eq_false_iff, decide_eq_false_iff_not]
      omega
    · rw [encodePoint_one rfl ascii]
      rfl
  split at stepped
  · cases stepped
  split at stepped
  · next two =>
    cases stepped
    obtain ⟨d, rest, c, v, rfl, last, number, least, whole, here, rfl⟩ := exists_of_within_zero later
    refine ⟨c, rest, v, whole, ?_, here, rfl⟩
    rw [encodePoint_two (by omega) last least number]
    rfl
  split at stepped
  · next lead three =>
    cases stepped
    obtain ⟨d, rest, rfl, second, more⟩ := exists_of_within_succ later
    obtain ⟨e, rest, c, v, rfl, last, number, least, whole, here, rfl⟩ := exists_of_within_zero more
    refine ⟨c, rest, v, whole, ?_, here, rfl⟩
    rw [encodePoint_three (by omega) second last least number]
    rfl
  split at stepped
  · next lead four =>
    cases stepped
    obtain ⟨d, rest, rfl, second, more⟩ := exists_of_within_succ later
    obtain ⟨e, rest, rfl, third, more⟩ := exists_of_within_succ more
    obtain ⟨f, rest, c, v, rfl, last, number, least, whole, here, rfl⟩ := exists_of_within_zero more
    refine ⟨c, rest, v, whole, ?_, here, rfl⟩
    rw [encodePoint_four (by omega) second third last least number]
    rfl
  · cases stepped

/-! ## Whole texts -/

theorem length_encodePoint_pos (c : CodePoint) : 0 < (encodePoint c).length := by
  obtain ⟨b, octets, eq, -⟩ := encodePoint_begins c
  rw [eq]
  exact Nat.succ_pos _

theorem spells_of_decode {pieces : List Piece} {t : Text} (decoded : decode pieces = some t) :
    Spells t pieces := by
  -- A code point takes up to four octets, so the induction is on how many pieces are left.
  induction size : pieces.length using Nat.strongRecOn generalizing pieces t with
  | _ n shorter =>
    cases pieces with
    | nil =>
      cases decoded
      exact .nil
    | cons piece pieces =>
      cases piece with
      | point c =>
        rw [decode, decodeFrom_point] at decoded
        obtain ⟨u, later, rfl⟩ := Option.map_eq_some_iff.mp decoded
        exact .point c (shorter pieces.length (by rw [← size]; exact Nat.lt_succ_self _) later rfl)
      | octet b =>
        obtain ⟨c, rest, u, whole, eq, later, rfl⟩ := exists_of_decode_octet decoded
        rw [eq]
        refine .octets whole (shorter rest.length ?_ later rfl)
        have total := congrArg List.length eq
        rw [size, List.length_append, List.length_map] at total
        have some_octet := length_encodePoint_pos c
        omega

/-- Pieces decode to exactly the text that they spell. -/
theorem decode_eq_some_iff {pieces : List Piece} {t : Text} :
    decode pieces = some t ↔ Spells t pieces :=
  ⟨spells_of_decode, decode_of_spells⟩

end SearchTuning.Utf8

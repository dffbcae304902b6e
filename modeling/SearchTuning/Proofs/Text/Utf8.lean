import SearchTuning.Text.Utf8

/-!
# Decoding UTF-8 piece by piece

A text that has no surrogate is read back from its octets, whatever comes after them.  Decoding can
be split at every place where no sequence is open, and so at every piece that begins a sequence: an
open sequence before it would be refused.
-/

namespace SearchTuning

/-! ## Texts without surrogates -/

namespace Text

theorem hasSurrogate_eq_false_iff {t : Text} :
    t.hasSurrogate = false ↔ ∀ c ∈ t, c.isSurrogate = false := by
  simp [hasSurrogate]

theorem hasSurrogate_append (a b : Text) :
    (a ++ b).hasSurrogate = (a.hasSurrogate || b.hasSurrogate) := List.any_append

theorem hasSurrogate_cons (c : CodePoint) (t : Text) :
    hasSurrogate (c :: t) = (c.isSurrogate || t.hasSurrogate) := List.any_cons

theorem hasSurrogate_nil : hasSurrogate [] = false := rfl

/-- ASCII holds no surrogate. -/
theorem hasSurrogate_of_ascii {t : Text} (ascii : ∀ c ∈ t, c.val < 0x80) :
    t.hasSurrogate = false := by
  refine hasSurrogate_eq_false_iff.mpr fun c member => ?_
  have small := ascii c member
  simp only [CodePoint.isSurrogate, Bool.and_eq_false_iff, decide_eq_false_iff_not]
  omega

end Text

/-! ## Decoding -/

namespace Utf8

theorem decodeFrom_octet (state : State) (b : Octet) (pieces : List Piece) :
    decodeFrom state (.octet b :: pieces) =
      (state.step b).bind fun taken => (decodeFrom taken.2 pieces).map (taken.1 ++ ·) := by
  cases state <;> simp only [decodeFrom, Option.map_eq_bind] <;> rfl

theorem decodeFrom_point (c : CodePoint) (pieces : List Piece) :
    decodeFrom .ready (.point c :: pieces) = (decodeFrom .ready pieces).map (c :: ·) := rfl

/-! ## Splitting -/

/-- Pieces that end where no sequence is open are decoded apart from what follows them. -/
theorem decodeFrom_append {state : State} {pieces : List Piece} {t : Text}
    (h : decodeFrom state pieces = some t) (rest : List Piece) :
    decodeFrom state (pieces ++ rest) = (decode rest).map (t ++ ·) := by
  induction pieces generalizing state t with
  | nil =>
    cases state with
    | ready =>
      cases h
      simp [decode]
    | within missing bits least => cases h
  | cons piece pieces ih =>
    cases piece with
    | octet b =>
      rw [decodeFrom_octet] at h
      obtain ⟨⟨done, next⟩, stepped, h⟩ := Option.bind_eq_some_iff.mp h
      obtain ⟨u, decoded, eq⟩ := Option.map_eq_some_iff.mp h
      rw [List.cons_append, decodeFrom_octet, stepped, Option.bind_some, ih decoded,
        Option.map_map, ← eq]
      simp only [Function.comp_def, List.append_assoc]
    | point c =>
      cases state with
      | ready =>
        rw [decodeFrom_point] at h
        obtain ⟨u, decoded, eq⟩ := Option.map_eq_some_iff.mp h
        rw [List.cons_append, decodeFrom_point, ih decoded, Option.map_map, ← eq]
        rfl
      | within missing bits least => cases h

theorem decode_append {pieces : List Piece} {t : Text} (h : decode pieces = some t)
    (rest : List Piece) : decode (pieces ++ rest) = (decode rest).map (t ++ ·) :=
  decodeFrom_append h rest

/-- A piece before which no sequence can be open: anything but an octet of the range that goes on
with a sequence. -/
def Piece.Begins : Piece → Prop
  | .octet b => ¬ (0x80 ≤ b.val ∧ b.val < 0xC0)
  | .point _ => True

/-- What comes before a piece that begins a sequence is complete in itself. -/
theorem decodeFrom_before {state : State} {pieces : List Piece} {piece : Piece}
    {rest : List Piece} {t : Text} (begins : piece.Begins)
    (h : decodeFrom state (pieces ++ piece :: rest) = some t) :
    ∃ u, decodeFrom state pieces = some u := by
  induction pieces generalizing state t with
  | nil =>
    cases state with
    | ready => exact ⟨[], rfl⟩
    | within missing bits least =>
      cases piece with
      | octet b =>
        rw [List.nil_append, decodeFrom_octet, State.step, if_neg begins] at h
        cases h
      | point c => cases h
  | cons first pieces ih =>
    rw [List.cons_append] at h
    cases first with
    | octet b =>
      rw [decodeFrom_octet] at h
      obtain ⟨⟨done, next⟩, stepped, h⟩ := Option.bind_eq_some_iff.mp h
      obtain ⟨v, decoded, -⟩ := Option.map_eq_some_iff.mp h
      obtain ⟨u, front⟩ := ih decoded
      exact ⟨done ++ u, by rw [decodeFrom_octet, stepped, Option.bind_some, front, Option.map_some]⟩
    | point c =>
      cases state with
      | ready =>
        rw [decodeFrom_point] at h
        obtain ⟨v, decoded, -⟩ := Option.map_eq_some_iff.mp h
        obtain ⟨u, front⟩ := ih decoded
        exact ⟨c :: u, by rw [decodeFrom_point, front, Option.map_some]⟩
      | within missing bits least => cases h

/-! ## Reading back -/

theorem point?_val (c : CodePoint) {least : Nat} (enough : least ≤ c.val)
    (whole : c.isSurrogate = false) : point? c.val least = some c := by
  rw [point?, dif_pos c.isLt, if_neg]
  simp [whole, Nat.not_lt.mpr enough]

theorem step_more {missing bits least n : Nat} (small : n < 0x40) :
    State.step (.within (missing + 1) bits least) ⟨0x80 + n, by omega⟩ =
      some ([], .within missing (bits * 0x40 + n) least) := by
  rw [State.step, if_pos ⟨Nat.le_add_right _ _, by simp only; omega⟩]
  simp only [Nat.add_sub_cancel_left]

theorem step_last {bits least n : Nat} (small : n < 0x40) :
    State.step (.within 0 bits least) ⟨0x80 + n, by omega⟩ =
      (point? (bits * 0x40 + n) least).map fun c => ([c], .ready) := by
  rw [State.step, if_pos ⟨Nat.le_add_right _ _, by simp only; omega⟩]
  simp only [Nat.add_sub_cancel_left]

theorem decodeFrom_encodePoint {c : CodePoint} (whole : c.isSurrogate = false)
    (rest : List Piece) :
    decodeFrom .ready ((encodePoint c).map Piece.octet ++ rest) =
      (decodeFrom .ready rest).map (c :: ·) := by
  have bound := c.isLt
  unfold encodePoint
  split
  · next h1 => simp [decodeFrom_octet, State.step, h1]
  split
  · next h1 h2 =>
    have number : c.val / 0x40 * 0x40 + c.val % 0x40 = c.val := by omega
    have first : State.step .ready ⟨0xC0 + c.val / 0x40, by omega⟩ =
        some ([], .within 0 (c.val / 0x40) 0x80) := by
      rw [State.step, dif_neg (by simp only; omega), if_neg (by simp only; omega),
        if_pos (by simp only; omega), Nat.add_sub_cancel_left]
    simp only [List.map_cons, List.map_nil, List.cons_append, List.nil_append, decodeFrom_octet,
      first, Option.bind_some, step_last (Nat.mod_lt c.val (by omega : 0x40 > 0)), number,
      point?_val c (Nat.not_lt.mp h1) whole, Option.map_some, Option.map_map, Function.comp_def]
  split
  · next h1 h2 h3 =>
    have number : (c.val / 0x1000 * 0x40 + c.val / 0x40 % 0x40) * 0x40 + c.val % 0x40 = c.val := by
      omega
    have first : State.step .ready ⟨0xE0 + c.val / 0x1000, by omega⟩ =
        some ([], .within 1 (c.val / 0x1000) 0x800) := by
      rw [State.step, dif_neg (by simp only; omega), if_neg (by simp only; omega),
        if_neg (by simp only; omega), if_pos (by simp only; omega), Nat.add_sub_cancel_left]
    simp only [List.map_cons, List.map_nil, List.cons_append, List.nil_append, decodeFrom_octet,
      first, Option.bind_some, step_last (Nat.mod_lt c.val (by omega : 0x40 > 0)),
      step_more (Nat.mod_lt (c.val / 0x40) (by omega : 0x40 > 0)), number,
      point?_val c (Nat.not_lt.mp h2) whole, Option.map_some, Option.map_map, Function.comp_def]
  · next h1 h2 h3 =>
    have number : ((c.val / 0x40000 * 0x40 + c.val / 0x1000 % 0x40) * 0x40 +
        c.val / 0x40 % 0x40) * 0x40 + c.val % 0x40 = c.val := by omega
    have first : State.step .ready ⟨0xF0 + c.val / 0x40000, by omega⟩ =
        some ([], .within 2 (c.val / 0x40000) 0x10000) := by
      rw [State.step, dif_neg (by simp only; omega), if_neg (by simp only; omega),
        if_neg (by simp only; omega), if_neg (by simp only; omega), if_pos (by simp only; omega),
        Nat.add_sub_cancel_left]
    simp only [List.map_cons, List.map_nil, List.cons_append, List.nil_append, decodeFrom_octet,
      first, Option.bind_some, step_last (Nat.mod_lt c.val (by omega : 0x40 > 0)),
      step_more (Nat.mod_lt (c.val / 0x40) (by omega : 0x40 > 0)),
      step_more (Nat.mod_lt (c.val / 0x1000) (by omega : 0x40 > 0)), number,
      point?_val c (Nat.not_lt.mp h3) whole, Option.map_some, Option.map_map, Function.comp_def]

/-- A text without surrogates is read back from its octets. -/
theorem decode_encode {t : Text} (whole : t.hasSurrogate = false) :
    decode ((encode t).map Piece.octet) = some t := by
  induction t with
  | nil => rfl
  | cons c t ih =>
    simp only [Text.hasSurrogate, List.any_cons, Bool.or_eq_false_iff] at whole
    rw [encode, List.flatMap_cons, List.map_append, decode, decodeFrom_encodePoint whole.1]
    exact Option.map_eq_some_iff.mpr ⟨t, ih whole.2, rfl⟩

/-- The first octet of a code point begins a sequence. -/
theorem encodePoint_begins (c : CodePoint) :
    ∃ b octets, encodePoint c = b :: octets ∧ (Piece.octet b).Begins := by
  have bound := c.isLt
  unfold encodePoint
  split
  · exact ⟨_, _, rfl, by simp only [Piece.Begins]; omega⟩
  split
  · exact ⟨_, _, rfl, by simp only [Piece.Begins]; omega⟩
  split
  · exact ⟨_, _, rfl, by simp only [Piece.Begins]; omega⟩
  · exact ⟨_, _, rfl, by simp only [Piece.Begins]; omega⟩

/-! ## What decoding can give -/

theorem isSurrogate_of_point? {n least : Nat} {c : CodePoint} (found : point? n least = some c) :
    c.isSurrogate = false := by
  unfold point? at found
  split at found
  · split at found
    · cases found
    · next allowed =>
      cases found
      simp only [not_or, Bool.not_eq_true] at allowed
      exact allowed.2
  · cases found

/-- A step that completes no code point leaves a sequence open, and one that completes some gives no
surrogate. -/
theorem step_cases {state next : State} {b : Octet} {done : Text}
    (stepped : state.step b = some (done, next)) :
    (done = [] ∧ next ≠ .ready) ∨ ∃ c, done = [c] ∧ c.isSurrogate = false := by
  cases state with
  | ready =>
    rw [State.step] at stepped
    split at stepped
    · next ascii =>
      cases stepped
      refine .inr ⟨_, rfl, ?_⟩
      simp only [CodePoint.isSurrogate, Bool.and_eq_false_iff, decide_eq_false_iff_not]
      omega
    all_goals
      repeat' split at stepped
      all_goals
        cases stepped
        try exact .inl ⟨rfl, fun same => by cases same⟩
  | within missing bits least =>
    rw [State.step] at stepped
    split at stepped
    · cases missing with
      | zero =>
        obtain ⟨c, found, eq⟩ := Option.map_eq_some_iff.mp stepped
        cases eq
        exact .inr ⟨c, rfl, isSurrogate_of_point? found⟩
      | succ missing =>
        cases stepped
        exact .inl ⟨rfl, fun same => by cases same⟩
    · cases stepped

/-- Only of nothing nothing is decoded. -/
theorem eq_nil_of_decodeFrom {state : State} {pieces : List Piece}
    (decoded : decodeFrom state pieces = some []) : state = .ready ∧ pieces = [] := by
  induction pieces generalizing state with
  | nil =>
    cases state with
    | ready => exact ⟨rfl, rfl⟩
    | within missing bits least => cases decoded
  | cons piece pieces ih =>
    cases piece with
    | octet b =>
      rw [decodeFrom_octet] at decoded
      obtain ⟨⟨done, next⟩, stepped, rest⟩ := Option.bind_eq_some_iff.mp decoded
      obtain ⟨u, later, eq⟩ := Option.map_eq_some_iff.mp rest
      obtain ⟨rfl, rfl⟩ := List.append_eq_nil_iff.mp eq
      rcases step_cases stepped with ⟨-, still⟩ | ⟨c, eq, -⟩
      · exact absurd (ih later).1 still
      · cases eq
    | point c =>
      cases state with
      | ready =>
        rw [decodeFrom_point] at decoded
        obtain ⟨u, -, eq⟩ := Option.map_eq_some_iff.mp decoded
        cases eq
      | within missing bits least => cases decoded

/-- Octets stand for no surrogate, so one can only come from a code point that needs no decoding. -/
theorem hasSurrogate_of_decodeFrom {state : State} {pieces : List Piece} {t : Text}
    (whole : ∀ c, Piece.point c ∈ pieces → c.isSurrogate = false)
    (decoded : decodeFrom state pieces = some t) : t.hasSurrogate = false := by
  induction pieces generalizing state t with
  | nil =>
    cases state with
    | ready =>
      cases decoded
      rfl
    | within missing bits least => cases decoded
  | cons piece pieces ih =>
    have others : ∀ c, Piece.point c ∈ pieces → c.isSurrogate = false := fun c member =>
      whole c (List.mem_cons_of_mem piece member)
    cases piece with
    | octet b =>
      rw [decodeFrom_octet] at decoded
      obtain ⟨⟨done, next⟩, stepped, rest⟩ := Option.bind_eq_some_iff.mp decoded
      obtain ⟨u, later, rfl⟩ := Option.map_eq_some_iff.mp rest
      have back := ih others later
      rcases step_cases stepped with ⟨rfl, -⟩ | ⟨c, rfl, here⟩
      · exact back
      · rw [Text.hasSurrogate] at back ⊢
        simp [here, back]
    | point c =>
      cases state with
      | ready =>
        rw [decodeFrom_point] at decoded
        obtain ⟨u, later, rfl⟩ := Option.map_eq_some_iff.mp decoded
        have here := whole c List.mem_cons_self
        have back := ih others later
        rw [Text.hasSurrogate] at back ⊢
        simp [here, back]
      | within missing bits least => cases decoded

end Utf8

end SearchTuning

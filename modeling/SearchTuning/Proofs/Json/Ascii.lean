import SearchTuning.Proofs.Json.Literal
import SearchTuning.Proofs.Text.Utf8

/-!
# Literals in ASCII

A text that is written in ASCII alone spells its places too, with two for a code point beyond 16
bits.  They stand for the text if it holds no surrogate; surrogates that are a pair come together.
-/

namespace SearchTuning.Literal

/-! ## Surrogates -/

theorem pairPoint?_of_whole {u v : Fin 0x10000} (whole : (unitPoint u).isSurrogate = false) :
    pairPoint? u v = none := by
  refine dif_neg fun bounds => ?_
  have surrogate : (unitPoint u).isSurrogate = true := by
    rw [CodePoint.isSurrogate, Bool.and_eq_true, decide_eq_true_eq, decide_eq_true_eq]
    exact ⟨bounds.1.1, Nat.le_trans bounds.1.2 (by decide)⟩
  cases whole.symm.trans surrogate

/-- The surrogates that stand for a code point beyond 16 bits together. -/
def highUnit (c : CodePoint) : Fin 0x10000 := ⟨0xD800 + (c.val - 0x10000) / 0x400, by omega⟩

@[inherit_doc highUnit]
def lowUnit (c : CodePoint) : Fin 0x10000 := ⟨0xDC00 + (c.val - 0x10000) % 0x400, by omega⟩

theorem pairPoint?_units {c : CodePoint} (wide : 0x10000 ≤ c.val) :
    pairPoint? (highUnit c) (lowUnit c) = some c := by
  have bounds : (0xD800 ≤ (highUnit c).val ∧ (highUnit c).val ≤ 0xDBFF) ∧
      (0xDC00 ≤ (lowUnit c).val ∧ (lowUnit c).val ≤ 0xDFFF) := by
    simp only [highUnit, lowUnit]
    omega
  rw [pairPoint?, dif_pos bounds, Option.some.injEq]
  apply Fin.ext
  simp only [highUnit, lowUnit]
  omega

/-! ## Writing a text -/

/-- The places in which a code point is written in ASCII alone. -/
def asciiPlaces (c : CodePoint) : List Piece :=
  match letter? c with
  | some _ => [.named c]
  | none =>
      if 0x20 ≤ c.val ∧ c.val < 0x7F then [.plain c]
      else if narrow : c.val < 0x10000 then [.unit ⟨c.val, narrow⟩]
      else [.unit (highUnit c), .unit (lowUnit c)]

/-- The places in which a text is written, in one of the two forms. -/
def places (ascii : Bool) (t : Text) : List Piece :=
  if ascii then t.flatMap asciiPlaces else pieces t

theorem spells_asciiPoint (c : CodePoint) : Spells (asciiPoint c) (asciiPlaces c) := by
  rw [asciiPoint, asciiPlaces]
  cases named : letter? c with
  | some letter => exact .named (named?_of_letter? named) .nil
  | none =>
    by_cases visible : 0x20 ≤ c.val ∧ c.val < 0x7F
    · simp only [if_pos visible]
      refine .plain ?_ ?_ (Nat.not_lt.mpr visible.1) .nil
      · rintro rfl
        exact absurd named (by decide)
      · rintro rfl
        exact absurd named (by decide)
    by_cases narrow : c.val < 0x10000
    · simp only [if_neg visible, if_pos narrow, dif_pos narrow]
      exact spells_unitText ⟨c.val, narrow⟩
    · simp only [if_neg visible, if_neg narrow, dif_neg narrow]
      exact (spells_unitText (highUnit c)).append (spells_unitText (lowUnit c))

/-- A text spells its places in both forms. -/
theorem spells_places (ascii : Bool) (t : Text) : Spells (encode ascii t) (places ascii t) := by
  cases ascii with
  | false => exact spells_encode t
  | true =>
    induction t with
    | nil => exact .nil
    | cons c t ih => exact (spells_asciiPoint c).append ih

theorem decode_asciiPlaces_append {c : CodePoint} (whole : c.isSurrogate = false)
    (rest : List Piece) : decode (asciiPlaces c ++ rest) = c :: decode rest := by
  unfold asciiPlaces
  split
  · rfl
  split
  · rfl
  split
  · next narrow =>
    have alone : ∀ v, pairPoint? ⟨c.val, narrow⟩ v = none :=
      fun v => pairPoint?_of_whole (u := ⟨c.val, narrow⟩) whole
    rw [List.singleton_append, decode_unit_cons fun v _ => alone v]
    rfl
  · next wide =>
    rw [List.cons_append, List.singleton_append, decode, pairPoint?_units (Nat.le_of_not_lt wide)]

/-! ## What is read back -/

/-- The code point that two others stand for together, if they are a surrogate pair. -/
def joint? (c d : CodePoint) : Option CodePoint :=
  if narrow : c.val < 0x10000 ∧ d.val < 0x10000 then
    pairPoint? ⟨c.val, narrow.1⟩ ⟨d.val, narrow.2⟩
  else none

/-- A text in which surrogates that are a pair have come together. -/
def joined : Text → Text
  | [] => []
  | [c] => [c]
  | c :: d :: rest =>
      match joint? c d with
      | some both => both :: joined rest
      | none => c :: joined (d :: rest)

example : joined [0x61, 0xD83D, 0xDE00, 0xDE00] = [0x61, 0x1F600, 0xDE00] := by decide

theorem joint?_eq_none {c d : CodePoint} (whole : c.isSurrogate = false ∨ d.isSurrogate = false) :
    joint? c d = none := by
  rw [joint?]
  split
  · refine dif_neg fun bounds => ?_
    have high : 0xD800 ≤ c.val ∧ c.val ≤ 0xDBFF := bounds.1
    have low : 0xDC00 ≤ d.val ∧ d.val ≤ 0xDFFF := bounds.2
    simp only [CodePoint.isSurrogate, Bool.and_eq_false_iff, decide_eq_false_iff_not] at whole
    omega
  · rfl

theorem joined_cons_of_whole {c : CodePoint} (whole : c.isSurrogate = false) (t : Text) :
    joined (c :: t) = c :: joined t := by
  cases t with
  | nil => rfl
  | cons d t => rw [joined, joint?_eq_none (.inl whole)]

/-- Without surrogates nothing comes together. -/
theorem joined_of_whole {t : Text} (whole : t.hasSurrogate = false) : joined t = t := by
  induction t with
  | nil => rfl
  | cons c t ih =>
    rw [Text.hasSurrogate_cons, Bool.or_eq_false_iff] at whole
    rw [joined_cons_of_whole whole.1, ih whole.2]

/-- What is named by a letter is in ASCII. -/
theorem lt_of_letter? {c letter : CodePoint} (named : letter? c = some letter) : c.val < 0x80 := by
  refine Nat.lt_of_not_le fun large => ?_
  have other : ∀ ch : CodePoint, ch.val < 0x80 → c ≠ ch := by
    rintro ch small rfl
    exact Nat.not_lt.mpr large small
  rw [letter?, if_neg, if_neg (other _ (by decide)), if_neg (other _ (by decide)),
    if_neg (other _ (by decide)), if_neg, if_neg] at named
  · cases named
  · omega
  · omega
  · rintro (quote | slash)
    · exact other _ (by decide) quote
    · exact other _ (by decide) slash

theorem asciiPlaces_of_surrogate {c : CodePoint} (surrogate : c.isSurrogate = true) :
    ∃ narrow, asciiPlaces c = [.unit ⟨c.val, narrow⟩] := by
  rw [CodePoint.isSurrogate, Bool.and_eq_true, decide_eq_true_eq, decide_eq_true_eq] at surrogate
  have narrow : c.val < 0x10000 := by omega
  have hidden : ¬(0x20 ≤ c.val ∧ c.val < 0x7F) := by omega
  refine ⟨narrow, ?_⟩
  cases named : letter? c with
  | some letter =>
    have small := lt_of_letter? named
    omega
  | none => simp only [asciiPlaces, named, if_neg hidden, dif_pos narrow]

/-- No place of a code point that is no surrogate completes a pair. -/
theorem decode_unit_append_of_whole {u : Fin 0x10000} {d : CodePoint} (whole : d.isSurrogate = false)
    (rest : List Piece) :
    decode (.unit u :: (asciiPlaces d ++ rest)) = unitPoint u :: decode (asciiPlaces d ++ rest) := by
  refine decode_unit_cons fun v first => ?_
  have outside : v.val < 0xDC00 ∨ 0xDFFF < v.val := by
    rw [CodePoint.isSurrogate, Bool.and_eq_false_iff, decide_eq_false_iff_not,
      decide_eq_false_iff_not] at whole
    unfold asciiPlaces at first
    split at first
    · cases first
    split at first
    · cases first
    split at first
    · cases first
      change d.val < 0xDC00 ∨ 0xDFFF < d.val
      omega
    · cases first
      change 0xD800 + (d.val - 0x10000) / 0x400 < 0xDC00 ∨ _
      omega
  refine dif_neg fun bounds => ?_
  omega

theorem decode_unit_append {c d : CodePoint} (narrow : c.val < 0x10000) (rest : List Piece) :
    decode (.unit ⟨c.val, narrow⟩ :: (asciiPlaces d ++ rest)) =
      match joint? c d with
      | some both => both :: decode rest
      | none => c :: decode (asciiPlaces d ++ rest) := by
  cases surrogate : d.isSurrogate with
  | false =>
    rw [joint?_eq_none (.inr surrogate)]
    exact decode_unit_append_of_whole surrogate rest
  | true =>
    obtain ⟨small, places_eq⟩ := asciiPlaces_of_surrogate surrogate
    have pair_eq : joint? c d = pairPoint? ⟨c.val, narrow⟩ ⟨d.val, small⟩ := dif_pos ⟨narrow, small⟩
    rw [places_eq, pair_eq]
    rfl

/-- What a text in ASCII is read as: the text, in which surrogates that are a pair have come
together. -/
theorem decode_places_ascii (t : Text) : decode (places true t) = joined t := by
  induction t using joined.induct with
  | case1 => rfl
  | case2 c =>
    cases surrogate : c.isSurrogate with
    | false => exact decode_asciiPlaces_append surrogate []
    | true =>
      obtain ⟨narrow, places_eq⟩ := asciiPlaces_of_surrogate surrogate
      change decode (asciiPlaces c ++ []) = [c]
      rw [places_eq]
      rfl
  | case3 c d rest both pair ih =>
    cases surrogate : c.isSurrogate with
    | false => cases (joint?_eq_none (.inl surrogate)).symm.trans pair
    | true =>
      obtain ⟨narrow, places_eq⟩ := asciiPlaces_of_surrogate surrogate
      change decode (asciiPlaces c ++ (asciiPlaces d ++ places true rest)) = _
      rw [places_eq, List.singleton_append, decode_unit_append, joined, pair, ← ih]
  | case4 c d rest apart ih =>
    rw [joined, apart]
    change decode (asciiPlaces c ++ places true (d :: rest)) = c :: _
    rw [← ih]
    cases surrogate : c.isSurrogate with
    | false => exact decode_asciiPlaces_append surrogate _
    | true =>
      obtain ⟨narrow, places_eq⟩ := asciiPlaces_of_surrogate surrogate
      change decode (asciiPlaces c ++ (asciiPlaces d ++ places true rest)) = _
      rw [places_eq, List.singleton_append, decode_unit_append, apart]
      rfl

end SearchTuning.Literal

import SearchTuning.Proofs.QueryString.Phrase
import SearchTuning.Proofs.Text.Spelling

/-!
# The grammar of segments

What a key or a value stands for is a matter of its signs alone: a plus sign is a space, the escapes
of a code point's octets are the code point, and every other sign is itself.  The reader knows no
such grammar, since it takes octets from wherever they come and decodes them afterwards; here it is
shown to keep exactly the segments that the grammar has.
-/

namespace SearchTuning.QueryString

open Utf8 (Piece Spells)

/-! ## The grammar -/

/-- The text is the percent escapes of the octets, in either case of the digits. -/
inductive Escapes : List Octet → Text → Prop where
  | nil : Escapes [] []
  | octet {h l : CodePoint} {x y : Fin 16} (high : h.hexValue? = some x)
      (low : l.hexValue? = some y) {octets : List Octet} {t : Text} (rest : Escapes octets t) :
      Escapes (octetOfDigits x y :: octets) ('%' :: h :: l :: t)

/-- A key or a value, as it is written, stands for a text. -/
inductive StandsFor : Text → Text → Prop where
  | nil : StandsFor [] []
  | space {raw t : Text} (rest : StandsFor raw t) : StandsFor ('+' :: raw) (' ' :: t)
  | sign {c : CodePoint} (percent : c ≠ '%') (plus : c ≠ '+') {raw t : Text}
      (rest : StandsFor raw t) : StandsFor (c :: raw) (c :: t)
  | escaped {c : CodePoint} (whole : c.isSurrogate = false) {front : Text}
      (escapes : Escapes (Utf8.encodePoint c) front) {raw t : Text} (rest : StandsFor raw t) :
      StandsFor (front ++ raw) (c :: t)

/-- A segment holds a key and its value: trimmed, it is what stands for the key, which is not empty,
and behind its first equals sign what stands for the value. -/
def Holds (segment : Text) (entry : Text × Text) : Prop :=
  ∃ rawKey rawValue, segment.trim = rawKey ++ CodePoint.ofChar '=' :: rawValue ∧
    CodePoint.ofChar '=' ∉ rawKey ∧ rawKey ≠ [] ∧
    StandsFor rawKey entry.1 ∧ StandsFor rawValue entry.2

/-! ## Pieces at the front -/

/-- A piece at the front is an escape, or a sign other than a percent sign. -/
theorem exists_of_unescape_cons {raw : Text} {piece : Piece} {pieces : List Piece}
    (read : unescape raw = some (piece :: pieces)) :
    (∃ h l x y rest, h.hexValue? = some x ∧ l.hexValue? = some y ∧
      raw = CodePoint.ofChar '%' :: h :: l :: rest ∧ piece = .octet (octetOfDigits x y) ∧
      unescape rest = some pieces) ∨
    ∃ c rest, c ≠ CodePoint.ofChar '%' ∧ raw = c :: rest ∧ piece = plainPiece c ∧
      unescape rest = some pieces := by
  cases raw using escapeInduction with
  | nil => cases read
  | escape h l rest x y high low =>
    rw [unescape_escape high low] at read
    obtain ⟨others, later, eq⟩ := Option.map_eq_some_iff.mp read
    cases eq
    exact .inl ⟨h, l, x, y, rest, high, low, rfl, rfl, later⟩
  | broken rest broken =>
    rw [unescape_broken broken] at read
    cases read
  | plain c rest plain =>
    rw [unescape_plain plain] at read
    obtain ⟨others, later, eq⟩ := Option.map_eq_some_iff.mp read
    cases eq
    exact .inr ⟨c, rest, plain, rfl, rfl, later⟩

theorem eq_nil_of_unescape {raw : Text} (read : unescape raw = some []) : raw = [] := by
  cases raw using escapeInduction with
  | nil => rfl
  | escape h l rest x y high low => simp [unescape_escape high low] at read
  | broken rest broken => simp [unescape_broken broken] at read
  | plain c rest plain => simp [unescape_plain plain] at read

theorem plainPiece_of_ascii {c : CodePoint} (plus : c ≠ CodePoint.ofChar '+')
    (ascii : c.val < 0x80) : plainPiece c = .octet ⟨c.val, octet_of_ascii ascii⟩ := by
  rw [plainPiece, if_neg plus, dif_pos ascii]

theorem plainPiece_of_beyond {c : CodePoint} (beyond : 0x80 ≤ c.val) : plainPiece c = .point c := by
  have plus : c ≠ CodePoint.ofChar '+' := by
    rintro rfl
    exact absurd beyond (by decide)
  rw [plainPiece, if_neg plus, dif_neg (Nat.not_lt.mpr beyond)]

/-- An octet that no escape spells is a sign of ASCII. -/
theorem octet_of_plainPiece {c : CodePoint} {b : Octet} (same : Piece.octet b = plainPiece c) :
    (c = CodePoint.ofChar '+' ∧ b.val = 0x20) ∨
      (c ≠ CodePoint.ofChar '+' ∧ b.val = c.val ∧ c.val < 0x80) := by
  rw [plainPiece] at same
  split at same
  · next plus =>
    cases same
    exact .inl ⟨plus, rfl⟩
  next plus =>
  split at same
  · next ascii =>
    cases same
    exact .inr ⟨plus, rfl, ascii⟩
  · cases same

/-! ## Reading what stands for a text -/

theorem unescape_escapes {octets : List Octet} {front : Text} (escapes : Escapes octets front)
    (raw : Text) :
    unescape (front ++ raw) = (unescape raw).map (octets.map Piece.octet ++ ·) := by
  induction escapes with
  | nil => simp
  | octet high low rest ih =>
    simp only [List.cons_append]
    rw [unescape_escape high low, ih, Option.map_map]
    rfl

theorem exists_unescape_of_standsFor {raw t : Text} (stands : StandsFor raw t) :
    ∃ pieces, unescape raw = some pieces ∧ Spells t pieces := by
  induction stands with
  | nil => exact ⟨[], rfl, .nil⟩
  | space rest ih =>
    obtain ⟨pieces, read, spells⟩ := ih
    refine ⟨_, by rw [unescape_plain (by decide), read, Option.map_some], ?_⟩
    exact Spells.octets (c := CodePoint.ofChar ' ') (by decide) spells
  | @sign c percent plus raw t rest ih =>
    obtain ⟨pieces, read, spells⟩ := ih
    refine ⟨_, by rw [unescape_plain percent, read, Option.map_some], ?_⟩
    by_cases ascii : c.val < 0x80
    · have whole : c.isSurrogate = false := by
        simp only [CodePoint.isSurrogate, Bool.and_eq_false_iff, decide_eq_false_iff_not]
        omega
      have one := Spells.octets whole spells
      rw [Utf8.encodePoint_one (b := ⟨c.val, octet_of_ascii ascii⟩) rfl ascii] at one
      rw [plainPiece_of_ascii plus ascii]
      exact one
    · rw [plainPiece_of_beyond (Nat.not_lt.mp ascii)]
      exact .point c spells
  | escaped whole escapes rest ih =>
    obtain ⟨pieces, read, spells⟩ := ih
    exact ⟨_, by rw [unescape_escapes escapes, read, Option.map_some], .octets whole spells⟩

/-! ## What is read stands for a text -/

/-- Octets beyond ASCII can only come from escapes. -/
theorem exists_escapes_of_unescape {octets : List Octet} (beyond : ∀ b ∈ octets, 0x80 ≤ b.val)
    {raw : Text} {pieces : List Piece}
    (read : unescape raw = some (octets.map Piece.octet ++ pieces)) :
    ∃ front rest, raw = front ++ rest ∧ Escapes octets front ∧ unescape rest = some pieces := by
  induction octets generalizing raw with
  | nil => exact ⟨[], raw, rfl, .nil, read⟩
  | cons b octets ih =>
    rcases exists_of_unescape_cons read with
      ⟨h, l, x, y, rest, high, low, rfl, eq, later⟩ | ⟨c, rest, -, rfl, eq, later⟩
    · cases eq
      obtain ⟨front, others, rfl, escapes, last⟩ :=
        ih (fun d member => beyond d (List.mem_cons_of_mem _ member)) later
      exact ⟨_, others, rfl, .octet high low escapes, last⟩
    · have high : 0x80 ≤ b.val := beyond b List.mem_cons_self
      rcases octet_of_plainPiece eq with ⟨-, number⟩ | ⟨-, number, ascii⟩ <;> omega

theorem encodePoint_beyond {c : CodePoint} (beyond : 0x80 ≤ c.val) :
    ∀ b ∈ Utf8.encodePoint c, 0x80 ≤ b.val := by
  rw [Utf8.encodePoint, dif_neg (Nat.not_lt.mpr beyond)]
  split
  · simp
    omega
  split
  · simp
    omega
  · simp
    omega

theorem standsFor_of_unescape {t : Text} {pieces : List Piece} (spells : Spells t pieces)
    {raw : Text} (read : unescape raw = some pieces) : StandsFor raw t := by
  induction spells generalizing raw with
  | nil =>
    rw [eq_nil_of_unescape read]
    exact .nil
  | point c rest ih =>
    rcases exists_of_unescape_cons read with
      ⟨h, l, x, y, others, -, -, -, eq, -⟩ | ⟨d, others, percent, rfl, eq, later⟩
    · cases eq
    · rw [plainPiece] at eq
      split at eq
      · cases eq
      next plus =>
      split at eq
      · cases eq
      · cases eq
        exact .sign percent plus (ih later)
  | @octets c whole t pieces rest ih =>
    by_cases ascii : c.val < 0x80
    · have alone : Utf8.encodePoint c = [⟨c.val, octet_of_ascii ascii⟩] :=
        Utf8.encodePoint_one rfl ascii
      rw [alone] at read
      rcases exists_of_unescape_cons read with
        ⟨h, l, x, y, others, high, low, rfl, eq, later⟩ | ⟨d, others, percent, rfl, eq, later⟩
      · have one : Escapes (Utf8.encodePoint c) ['%', h, l] := by
          rw [alone, Piece.octet.inj eq]
          exact .octet high low .nil
        exact .escaped whole one (ih later)
      · rcases octet_of_plainPiece eq with ⟨rfl, number⟩ | ⟨plus, number, -⟩
        · have same : c = CodePoint.ofChar ' ' := Fin.ext number
          rw [same]
          exact .space (ih later)
        · have same : c = d := Fin.ext number
          rw [same]
          exact .sign percent plus (ih later)
    · have beyond := encodePoint_beyond (Nat.not_lt.mp ascii)
      obtain ⟨front, others, rfl, escapes, later⟩ := exists_escapes_of_unescape beyond read
      exact .escaped whole escapes (ih later)

/-- A key or a value is decoded to exactly the text that it stands for. -/
theorem decode_eq_some_iff {raw t : Text} : decode raw = some t ↔ StandsFor raw t := by
  rw [decode, Option.bind_eq_some_iff]
  constructor
  · rintro ⟨pieces, read, decoded⟩
    exact standsFor_of_unescape (Utf8.decode_eq_some_iff.mp decoded) read
  · intro stands
    obtain ⟨pieces, read, spells⟩ := exists_unescape_of_standsFor stands
    exact ⟨pieces, read, Utf8.decode_eq_some_iff.mpr spells⟩

/-! ## Segments -/

/-- A segment is kept for exactly the key and the value that it holds. -/
theorem pair?_eq_some_iff {segment : Text} {entry : Text × Text} :
    pair? segment = some entry ↔ Holds segment entry := by
  constructor
  · intro kept
    obtain ⟨key, value, cut, filled, first, second⟩ := exists_cut?_of_pair? kept
    exact ⟨key, value, Text.eq_of_cut? cut, Text.not_mem_of_cut? cut, filled,
      decode_eq_some_iff.mp first, decode_eq_some_iff.mp second⟩
  · rintro ⟨rawKey, rawValue, split, absent, filled, key, value⟩
    have cut : segment.trim.cut? '=' = some (rawKey, rawValue) := by
      rw [split, Text.cut?_append absent, Text.cut?, if_pos rfl, Option.map_some]
      simp only [List.append_nil]
    rw [pair?_of_cut? cut filled, decode_eq_some_iff.mpr key, decode_eq_some_iff.mpr value]
    rfl

theorem pair?_eq_none_iff {segment : Text} :
    pair? segment = none ↔ ∀ entry, ¬ Holds segment entry := by
  simp only [← pair?_eq_some_iff, Option.eq_none_iff_forall_ne_some]

end SearchTuning.QueryString

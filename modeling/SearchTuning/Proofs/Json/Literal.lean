import SearchTuning.Json.Token

/-!
# String literals and what spells them

The inside of a literal is spelled place by place.  A text written with only what must be escaped
escaped is spelled by its places, which stand for it.  Two literals side by side are read apart
unless a surrogate pair comes together where they meet.
-/

namespace SearchTuning.Literal

open Json (unitOfDigits)

/-! ## What a literal stands for -/

theorem decode_unit_cons {u : Fin 0x10000} {rest : List Piece}
    (alone : ∀ v, rest.head? = some (.unit v) → pairPoint? u v = none) :
    decode (.unit u :: rest) = unitPoint u :: decode rest := by
  cases rest with
  | nil => rfl
  | cons piece rest =>
    cases piece with
    | plain c => rfl
    | named c => rfl
    | unit v => rw [decode, alone v rfl]

/-- Whether no surrogate pair comes together where one literal ends and another begins. -/
def Apart (a b : List Piece) : Prop :=
  ∀ u v, a.getLast? = some (.unit u) → b.head? = some (.unit v) → pairPoint? u v = none

theorem Apart.of_cons {piece : Piece} {a b : List Piece} (apart : Apart (piece :: a) b) :
    Apart a b := by
  intro u v last
  apply apart u v
  cases a with
  | nil => cases last
  | cons next a => rwa [List.getLast?_cons_cons]

/-- Literals that are apart are decoded apart. -/
theorem decode_append {a b : List Piece} (apart : Apart a b) :
    decode (a ++ b) = decode a ++ decode b := by
  induction a using decode.induct with
  | case1 => rfl
  | case2 c a ih => exact congrArg (c :: ·) (ih apart.of_cons)
  | case3 c a ih => exact congrArg (c :: ·) (ih apart.of_cons)
  | case4 u v a c pair ih =>
    rw [List.cons_append, List.cons_append, decode, decode, pair, ih apart.of_cons.of_cons]
    rfl
  | case5 u v a single ih =>
    have joined := ih apart.of_cons
    rw [List.cons_append] at joined
    rw [List.cons_append, List.cons_append, decode, decode, single, joined]
    rfl
  | case6 u a other ih =>
    have alone : ∀ w, a.head? = some (.unit w) → pairPoint? u w = none := by
      intro w first
      cases a with
      | nil => cases first
      | cons piece a =>
        cases first
        exact (other w a rfl).elim
    rw [List.cons_append, decode_unit_cons alone, decode_unit_cons, ih apart.of_cons]
    · rfl
    · intro w first
      cases a with
      | nil => exact apart u w rfl first
      | cons piece a => exact alone w first

/-- A literal that is not empty and spells no surrogate by its number, so that no pair can come
together at its ends. -/
def Solid (a : List Piece) : Prop := a ≠ [] ∧ ∀ u, Piece.unit u ∈ a → u.val < 0xD800

theorem pairPoint?_of_left {u v : Fin 0x10000} (small : u.val < 0xD800) :
    pairPoint? u v = none := by
  rw [pairPoint?, dif_neg]
  omega

theorem pairPoint?_of_right {u v : Fin 0x10000} (small : v.val < 0xD800) :
    pairPoint? u v = none := by
  rw [pairPoint?, dif_neg]
  omega

theorem Solid.apart_left {a b : List Piece} (solid : Solid a) (rest : List Piece) :
    Apart b (a ++ rest) := by
  intro u v _ first
  obtain ⟨piece, a, rfl⟩ := List.exists_cons_of_ne_nil solid.1
  cases first
  exact pairPoint?_of_right (solid.2 v List.mem_cons_self)

theorem Solid.apart_right {a : List Piece} (solid : Solid a) (b : List Piece) : Apart a b :=
  fun u _ last _ => pairPoint?_of_left (solid.2 u (List.mem_of_getLast? last))

/-- A literal between the parts of another is decoded apart from them. -/
theorem decode_intercalate {a : List Piece} (solid : Solid a) (parts : List (List Piece)) :
    decode (List.intercalate a parts) = List.intercalate (decode a) (parts.map decode) := by
  induction parts with
  | nil => rfl
  | cons b parts ih =>
    cases parts with
    | nil => simp
    | cons c parts =>
      rw [List.intercalate_cons_cons, List.append_assoc, decode_append (solid.apart_left _),
        decode_append (solid.apart_right _), ih, List.map_cons, List.map_cons, List.map_cons,
        List.intercalate_cons_cons, List.append_assoc]

/-! ## What spells a literal -/

/-- A text spells places of a literal, in any of the forms in which they may be written. -/
inductive Spells : Text → List Piece → Prop where
  | nil : Spells [] []
  | plain {c : CodePoint} {t : Text} {pieces : List Piece} (quote : c ≠ '"')
      (backslash : c ≠ '\\') (visible : ¬ c.val < 0x20) :
      Spells t pieces → Spells (c :: t) (.plain c :: pieces)
  | named {letter c : CodePoint} {t : Text} {pieces : List Piece} (name : named? letter = some c) :
      Spells t pieces → Spells (CodePoint.ofChar '\\' :: letter :: t) (.named c :: pieces)
  | unit {a b c d : CodePoint} {x y z w : Fin 16} {t : Text} {pieces : List Piece}
      (first : a.hexValue? = some x) (second : b.hexValue? = some y)
      (third : c.hexValue? = some z) (fourth : d.hexValue? = some w) :
      Spells t pieces →
      Spells (CodePoint.ofChar '\\' :: CodePoint.ofChar 'u' :: a :: b :: c :: d :: t)
        (.unit (unitOfDigits x y z w) :: pieces)

theorem Spells.append {t u : Text} {a b : List Piece} (front : Spells t a) (back : Spells u b) :
    Spells (t ++ u) (a ++ b) := by
  induction front with
  | nil => exact back
  | plain quote backslash visible _ ih => exact .plain quote backslash visible ih
  | named name _ ih => exact .named name ih
  | unit first second third fourth _ ih => exact .unit first second third fourth ih

/-- A code point that spells itself in a literal. -/
def Plain (c : CodePoint) : Prop := c ≠ '"' ∧ c ≠ '\\' ∧ ¬ c.val < 0x20
  deriving Decidable

/-- What begins with code points that spell themselves begins so place by place. -/
theorem Spells.of_append {u rest : Text} {pieces : List Piece} (plain : ∀ c ∈ u, Plain c)
    (spells : Spells (u ++ rest) pieces) :
    ∃ later, pieces = u.map .plain ++ later ∧ Spells rest later := by
  induction u generalizing pieces with
  | nil => exact ⟨pieces, rfl, spells⟩
  | cons c u ih =>
    have others : ∀ d ∈ u, Plain d := fun d member => plain d (List.mem_cons_of_mem c member)
    have here := plain c List.mem_cons_self
    rw [List.cons_append] at spells
    generalize eq : c :: (u ++ rest) = t at spells
    cases spells with
    | nil => cases eq
    | plain _ _ _ spells =>
      cases eq
      obtain ⟨later, split, spelled⟩ := ih others spells
      exact ⟨later, by rw [split]; rfl, spelled⟩
    | named name spells => exact absurd (List.cons.inj eq).1 here.2.1
    | unit first second third fourth spells => exact absurd (List.cons.inj eq).1 here.2.1

/-- A literal that begins with places that stand for themselves is spelled so. -/
theorem Spells.of_map_plain {u : Text} {t : Text} {later : List Piece}
    (spells : Spells t (u.map .plain ++ later)) : ∃ rest, t = u ++ rest ∧ Spells rest later := by
  induction u generalizing t with
  | nil => exact ⟨t, rfl, spells⟩
  | cons c u ih =>
    rw [List.map_cons, List.cons_append] at spells
    cases spells with
    | plain _ _ _ spells =>
      obtain ⟨rest, split, spelled⟩ := ih spells
      exact ⟨rest, by rw [split]; rfl, spelled⟩

/-! ## Writing a text -/

theorem unit_of_control {c : CodePoint} (control : c.val < 0x20) : c.val < 0x10000 := by omega

/-- The place in which a code point is written where only what must be escaped is escaped. -/
def piece (c : CodePoint) : Piece :=
  match letter? c with
  | some _ => .named c
  | none =>
      if control : c.val < 0x20 then .unit ⟨c.val, unit_of_control control⟩ else .plain c

/-- The places in which a text is written where only what must be escaped is escaped. -/
def pieces (t : Text) : List Piece := t.map piece

theorem named?_of_letter? {c letter : CodePoint} (h : letter? c = some letter) :
    named? letter = some c := by
  unfold letter? at h
  split at h
  · next same =>
    cases h
    rcases same with rfl | rfl <;> decide
  split at h
  · next same =>
    subst same
    cases h
    decide
  split at h
  · next same =>
    subst same
    cases h
    decide
  split at h
  · next same =>
    subst same
    cases h
    decide
  split at h
  · next same =>
    cases h
    rw [show c = 0x0C from Fin.ext same]
    decide
  split at h
  · next same =>
    cases h
    rw [show c = 0x08 from Fin.ext same]
    decide
  · cases h

theorem hexValue?_lowerHex : ∀ d : Fin 16, (CodePoint.lowerHex d).hexValue? = some d := by
  decide

/-- A unit that is written out is spelled by its digits. -/
theorem spells_unitText (u : Fin 0x10000) : Spells (unitText u.val) [.unit u] := by
  have bound := u.isLt
  have number : unitOfDigits ⟨u.val / 16 / 16 / 16 % 16, by omega⟩ ⟨u.val / 16 / 16 % 16, by omega⟩
      ⟨u.val / 16 % 16, by omega⟩ ⟨u.val % 16, by omega⟩ = u := by
    apply Fin.ext
    simp only [unitOfDigits]
    omega
  have spelled := Spells.unit (hexValue?_lowerHex ⟨u.val / 16 / 16 / 16 % 16, by omega⟩)
    (hexValue?_lowerHex ⟨u.val / 16 / 16 % 16, by omega⟩)
    (hexValue?_lowerHex ⟨u.val / 16 % 16, by omega⟩)
    (hexValue?_lowerHex ⟨u.val % 16, by omega⟩) Spells.nil
  rw [number] at spelled
  exact spelled

theorem spells_rawPoint (c : CodePoint) : Spells (rawPoint c) [piece c] := by
  rw [rawPoint, piece]
  cases named : letter? c with
  | some letter => exact .named (named?_of_letter? named) .nil
  | none =>
    by_cases control : c.val < 0x20
    · simp only [if_pos control, dif_pos control]
      exact spells_unitText ⟨c.val, unit_of_control control⟩
    · simp only [if_neg control, dif_neg control]
      refine .plain ?_ ?_ control .nil
      · rintro rfl
        exact absurd named (by decide)
      · rintro rfl
        exact absurd named (by decide)

/-- A text that is written with only what must be escaped escaped spells its places. -/
theorem spells_encode (t : Text) : Spells (encode false t) (pieces t) := by
  induction t with
  | nil => exact .nil
  | cons c t ih => exact (spells_rawPoint c).append ih

theorem decode_piece_cons (c : CodePoint) (rest : List Piece) :
    decode (piece c :: rest) = c :: decode rest := by
  unfold piece
  split
  · rfl
  · split
    · next control =>
      rw [decode_unit_cons fun v _ => pairPoint?_of_left (by simp only; omega)]
      rfl
    · rfl

/-- The places of a text stand for it. -/
theorem decode_pieces (t : Text) : decode (pieces t) = t := by
  induction t with
  | nil => rfl
  | cons c t ih => exact (decode_piece_cons c (pieces t)).trans (congrArg (c :: ·) ih)

theorem solid_pieces {t : Text} (filled : t ≠ []) : Solid (pieces t) := by
  constructor
  · exact mt List.map_eq_nil_iff.mp filled
  · intro u member
    obtain ⟨c, -, eq⟩ := List.mem_map.mp member
    unfold piece at eq
    split at eq
    · cases eq
    · split at eq
      · cases eq
        simp only
        omega
      · cases eq

end SearchTuning.Literal

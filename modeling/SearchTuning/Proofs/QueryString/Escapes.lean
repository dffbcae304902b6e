import SearchTuning.Proofs.Text.Utf8
import SearchTuning.QueryString.Basic

/-!
# Percent escapes

A quoted text is read back.  A key or a value that has another text inside it is decoded part by
part, if the text inside is complete, begins a sequence of octets, and closes no escape that is open
before it.
-/

namespace SearchTuning.QueryString

open Utf8 (Piece)

/-! ## Reading at the front -/

theorem octet_of_space : 0x20 < 0x100 := by decide

/-- The place that a code point other than a percent sign stands for. -/
def plainPiece (c : CodePoint) : Piece :=
  if c = '+' then .octet ⟨0x20, octet_of_space⟩
  else if ascii : c.val < 0x80 then .octet ⟨c.val, octet_of_ascii ascii⟩
  else .point c

theorem unescape_plain {c : CodePoint} (plain : c ≠ '%') (rest : Text) :
    unescape (c :: rest) = (unescape rest).map (plainPiece c :: ·) := by
  rw [unescape.eq_def, plainPiece]
  simp only [if_neg plain]
  split
  · rfl
  · split <;> rfl

theorem unescape_escape {h l : CodePoint} {x y : Fin 16} (high : h.hexValue? = some x)
    (low : l.hexValue? = some y) (rest : Text) :
    unescape (CodePoint.ofChar '%' :: h :: l :: rest) =
      (unescape rest).map (.octet (octetOfDigits x y) :: ·) := by
  rw [unescape.eq_def]
  simp only [if_true, high, low]

/-- What cannot follow a percent sign: anything but two hexadecimal digits. -/
def Broken (rest : Text) : Prop :=
  ∀ h l tail, rest = h :: l :: tail → h.hexValue? = none ∨ l.hexValue? = none

theorem unescape_broken {rest : Text} (broken : Broken rest) :
    unescape (CodePoint.ofChar '%' :: rest) = none := by
  rw [unescape.eq_def]
  simp only [if_true]
  split
  · next h l tail =>
    rcases broken h l tail rfl with high | low
    · rw [high]
    · rw [low]
      cases h.hexValue? <;> rfl
  · rfl

/-- A key or a value is taken apart at its front: an escape, a percent sign that begins none, or any
other code point. -/
@[elab_as_elim]
theorem escapeInduction {motive : Text → Prop} (nil : motive [])
    (escape : ∀ h l rest x y, h.hexValue? = some x → l.hexValue? = some y → motive rest →
      motive (CodePoint.ofChar '%' :: h :: l :: rest))
    (broken : ∀ rest, Broken rest → motive (CodePoint.ofChar '%' :: rest))
    (plain : ∀ c rest, c ≠ CodePoint.ofChar '%' → motive rest → motive (c :: rest)) (t : Text) :
    motive t := by
  induction t using unescape.induct with
  | case1 => exact nil
  | case2 h l rest x y low high ih => exact escape h l rest x y high low ih
  | case3 h l rest wrong =>
    apply broken
    rintro h' l' tail eq
    cases eq
    cases high : h.hexValue? with
    | none => exact .inl rfl
    | some x =>
      cases low : l.hexValue? with
      | none => exact .inr rfl
      | some y => exact absurd low fun low => wrong x y high low
  | case4 rest short => exact broken rest fun h l tail eq => (short h l tail eq).elim
  | case5 rest plus ih => exact plain _ rest plus ih
  | case6 c rest percent _ _ ih => exact plain c rest percent ih
  | case7 c rest percent _ _ ih => exact plain c rest percent ih

/-! ## Splitting -/

/-- What has only complete escapes is read apart from what follows it. -/
theorem unescape_append {a : Text} {pieces : List Piece} (complete : unescape a = some pieces)
    (rest : Text) : unescape (a ++ rest) = (unescape rest).map (pieces ++ ·) := by
  induction a using escapeInduction generalizing pieces with
  | nil =>
    cases complete
    simp
  | escape h l a x y high low ih =>
    rw [unescape_escape high low] at complete
    obtain ⟨others, found, eq⟩ := Option.map_eq_some_iff.mp complete
    rw [List.cons_append, List.cons_append, List.cons_append, unescape_escape high low, ih found,
      Option.map_map, ← eq]
    rfl
  | broken a broken =>
    rw [unescape_broken broken] at complete
    cases complete
  | plain c a plain ih =>
    rw [unescape_plain plain] at complete
    obtain ⟨others, found, eq⟩ := Option.map_eq_some_iff.mp complete
    rw [List.cons_append, unescape_plain plain, ih found, Option.map_map, ← eq]
    rfl

/-- A text at whose end an escape is open: a percent sign, or one with a hexadecimal digit. -/
def EscapeOpen (a : Text) : Prop :=
  [CodePoint.ofChar '%'] <:+ a ∨
    ∃ h : CodePoint, h.hexValue?.isSome ∧ [CodePoint.ofChar '%', h] <:+ a

theorem EscapeOpen.append {a : Text} (h : EscapeOpen a) (before : Text) :
    EscapeOpen (before ++ a) := by
  rcases h with h | ⟨digit, hex, h⟩
  · exact .inl (h.trans (List.suffix_append before a))
  · exact .inr ⟨digit, hex, h.trans (List.suffix_append before a)⟩

/-- No text that can begin with `next` closes an escape that is open at the end of `a`. -/
def Closed (a : Text) (next : CodePoint) : Prop := EscapeOpen a → next.hexValue? = none

/-- What comes before a code point that closes no escape has only complete escapes. -/
theorem unescape_before {a rest : Text} {next : CodePoint} {pieces : List Piece}
    (closed : Closed a next) (h : unescape (a ++ next :: rest) = some pieces) :
    ∃ others, unescape a = some others := by
  induction a using escapeInduction generalizing pieces with
  | nil => exact ⟨[], rfl⟩
  | escape h' l a x y high low ih =>
    rw [List.cons_append, List.cons_append, List.cons_append, unescape_escape high low] at h
    obtain ⟨after, found, -⟩ := Option.map_eq_some_iff.mp h
    obtain ⟨others, read⟩ :=
      ih (fun still => closed (still.append [CodePoint.ofChar '%', h', l])) found
    exact ⟨_, by rw [unescape_escape high low, read, Option.map_some]⟩
  | broken a broken =>
    -- Only `next` itself could make an escape of a percent sign at the very end.
    have still : Broken (a ++ next :: rest) := by
      intro h' l tail eq
      match a, broken, closed with
      | [], _, closed =>
        cases eq
        exact .inl (closed (.inl List.suffix_rfl))
      | [digit], _, closed =>
        cases eq
        cases hex : h'.hexValue? with
        | none => exact .inl rfl
        | some x => exact .inr (closed (.inr ⟨h', by rw [hex]; rfl, List.suffix_rfl⟩))
      | digit :: second :: a, broken, _ =>
        cases eq
        exact broken h' l a rfl
    rw [List.cons_append, unescape_broken still] at h
    cases h
  | plain c a plain ih =>
    rw [List.cons_append, unescape_plain plain] at h
    obtain ⟨after, found, -⟩ := Option.map_eq_some_iff.mp h
    obtain ⟨others, read⟩ := ih (fun still => closed (still.append [c])) found
    exact ⟨_, by rw [unescape_plain plain, read, Option.map_some]⟩

/-! ## Decoding -/

/-- What decodes is decoded apart from what follows it. -/
theorem decode_append {a t : Text} (complete : decode a = some t) (rest : Text) :
    decode (a ++ rest) = (decode rest).map (t ++ ·) := by
  obtain ⟨pieces, read, decoded⟩ := Option.bind_eq_some_iff.mp complete
  rw [decode, decode, unescape_append read]
  cases unescape rest with
  | none => rfl
  | some others => exact Utf8.decode_append decoded others

/-- A text whose first place begins a sequence of octets. -/
def Begins (v : Text) : Prop := ∃ piece pieces, unescape v = some (piece :: pieces) ∧ piece.Begins

/-- What comes before a text that begins a sequence is decoded apart from it, unless an escape is
open between them. -/
theorem decode_append_cons {a rest : Text} {next : CodePoint} (begins : Begins (next :: rest))
    (closed : decode a = none → Closed a next) (after : Text) :
    decode (a ++ (next :: rest ++ after)) =
      (decode a).bind fun t => (decode (next :: rest ++ after)).map (t ++ ·) := by
  cases front : decode a with
  | some t => rw [decode_append front, Option.bind_some]
  | none =>
    -- If the whole were decoded, what comes before the sequence would be too.
    obtain ⟨piece, pieces, read, first⟩ := begins
    cases whole : decode (a ++ (next :: rest ++ after)) with
    | none => rfl
    | some t =>
      obtain ⟨all, readAll, decoded⟩ := Option.bind_eq_some_iff.mp whole
      obtain ⟨before, readBefore⟩ := unescape_before (closed front) readAll
      rw [unescape_append readBefore, unescape_append read] at readAll
      cases last : unescape after with
      | none =>
        rw [last] at readAll
        cases readAll
      | some others =>
        rw [last] at readAll
        cases readAll
        rw [decode, readBefore, Option.bind_some] at front
        obtain ⟨u, complete⟩ := Utf8.decodeFrom_before first decoded
        rw [Utf8.decode, complete] at front
        cases front

theorem mapM_decode_cons (a : Text) (parts : List Text) :
    (a :: parts).mapM decode =
      (decode a).bind fun t => (parts.mapM decode).map (t :: ·) := by
  rw [List.mapM_cons]
  simp only [Option.map_eq_bind]
  rfl

/-- A key or a value that has a text between its parts is decoded part by part. -/
theorem decode_intercalate {next : CodePoint} {rest value : Text} (begins : Begins (next :: rest))
    (decoded : decode (next :: rest) = some value) {parts : List Text} (some_part : parts ≠ [])
    (closed : ∀ a ∈ parts.dropLast, decode a = none → Closed a next) :
    decode (List.intercalate (next :: rest) parts) =
      (parts.mapM decode).map (List.intercalate value) := by
  induction parts with
  | nil => exact absurd rfl some_part
  | cons a parts ih =>
    cases parts with
    | nil =>
      rw [List.intercalate_singleton, mapM_decode_cons]
      cases decode a <;> simp
    | cons b parts =>
      have later := ih (List.cons_ne_nil b parts) fun c member =>
        closed c (by rw [List.dropLast_cons_cons]; exact List.mem_cons_of_mem a member)
      have here := closed a (by rw [List.dropLast_cons_cons]; exact List.mem_cons_self)
      rw [List.intercalate_cons_cons, List.append_assoc, decode_append_cons begins here,
        decode_append decoded, later, mapM_decode_cons a, mapM_decode_cons b]
      cases decode a with
      | none => rfl
      | some t =>
        cases decode b with
        | none => rfl
        | some u => cases List.mapM decode parts <;> simp

/-! ## Quoting -/

theorem hexValue?_upperHex : ∀ d : Fin 16, (CodePoint.upperHex d).hexValue? = some d := by
  decide

theorem unescape_escapeOctet (b : Octet) (rest : Text) :
    unescape (escapeOctet b ++ rest) = (unescape rest).map (.octet b :: ·) := by
  have number : octetOfDigits ⟨b.val / 16, by omega⟩ ⟨b.val % 16, by omega⟩ = b := by
    apply Fin.ext
    simp only [octetOfDigits]
    omega
  rw [escapeOctet, List.cons_append, List.cons_append, List.cons_append, List.nil_append,
    unescape_escape (hexValue?_upperHex _) (hexValue?_upperHex _), number]

theorem unescape_escapeOctets (octets : List Octet) (rest : Text) :
    unescape (octets.flatMap escapeOctet ++ rest) =
      (unescape rest).map (octets.map Piece.octet ++ ·) := by
  induction octets with
  | nil => simp
  | cons b octets ih =>
    rw [List.flatMap_cons, List.append_assoc, unescape_escapeOctet, ih, Option.map_map]
    rfl

/-- What needs no escape is visible ASCII, and no sign that has a meaning in a query string. -/
theorem isUnreserved_bounds {c : CodePoint} (h : isUnreserved c = true) :
    0x21 ≤ c.val ∧ c.val < 0x80 ∧ c.val ≠ 0x25 ∧ c.val ≠ 0x26 ∧ c.val ≠ 0x2B ∧ c.val ≠ 0x3D := by
  simp only [isUnreserved, CodePoint.isAsciiAlphanumeric, CodePoint.isAsciiDigit,
    CodePoint.isAsciiLetter, Bool.or_eq_true, Bool.and_eq_true, decide_eq_true_eq] at h
  rcases h with (((h | h) | h) | h) | h
  · omega
  all_goals
    subst h
    decide

theorem unescape_quotePoint (c : CodePoint) (rest : Text) :
    unescape (quotePoint c ++ rest) =
      (unescape rest).map ((Utf8.encodePoint c).map Piece.octet ++ ·) := by
  rw [quotePoint]
  split
  · next free =>
    obtain ⟨-, ascii, percent, -, plus, -⟩ := isUnreserved_bounds free
    have plain : c ≠ CodePoint.ofChar '%' := fun eq => percent (by rw [eq]; rfl)
    have other : c ≠ CodePoint.ofChar '+' := fun eq => plus (by rw [eq]; rfl)
    rw [List.cons_append, List.nil_append, unescape_plain plain, plainPiece, if_neg other,
      dif_pos ascii, Utf8.encodePoint, dif_pos ascii]
    rfl
  · exact unescape_escapeOctets _ _

theorem unescape_quote (t : Text) :
    unescape (quote t) = some ((Utf8.encode t).map Piece.octet) := by
  induction t with
  | nil => rfl
  | cons c t ih =>
    rw [quote, List.flatMap_cons, unescape_quotePoint, ← quote, ih, Option.map_some, Utf8.encode,
      Utf8.encode, List.flatMap_cons, List.map_append]

/-- A quoted text is read back, unless it holds a surrogate. -/
theorem decode_quote {t : Text} (whole : t.hasSurrogate = false) : decode (quote t) = some t := by
  rw [decode, unescape_quote, Option.bind_some, Utf8.decode_encode whole]

/-- A quoted text begins a sequence of octets, if there is any of it. -/
theorem begins_quote {t : Text} (filled : t ≠ []) : Begins (quote t) := by
  obtain ⟨c, t, rfl⟩ := List.exists_cons_of_ne_nil filled
  obtain ⟨b, octets, eq, first⟩ := Utf8.encodePoint_begins c
  refine ⟨.octet b, (octets ++ Utf8.encode t).map Piece.octet, ?_, first⟩
  rw [unescape_quote, Utf8.encode, List.flatMap_cons, eq, Utf8.encode]
  rfl

theorem upperHex_bounds : ∀ d : Fin 16, 0x30 ≤ (CodePoint.upperHex d).val ∧
    (CodePoint.upperHex d).val ≤ 0x46 ∧ (CodePoint.upperHex d).val ≠ 0x3D := by
  decide

theorem quote_ne_nil {t : Text} (filled : t ≠ []) : quote t ≠ [] := by
  intro nothing
  obtain ⟨piece, pieces, read, -⟩ := begins_quote filled
  rw [nothing] at read
  cases read

/-- A code point at which no reader of query strings stops: no blank, no ampersand and no equals
sign. -/
def Inert (c : CodePoint) : Prop :=
  0x21 ≤ c.val ∧ c.val < 0x80 ∧ c.val ≠ 0x26 ∧ c.val ≠ 0x3D
  deriving Decidable

theorem Inert.isBlank {c : CodePoint} (inert : Inert c) : c.isBlank = false := by
  obtain ⟨low, high, -, -⟩ := inert
  have tab : ¬ c.val < 0x9 := by omega
  have line : ¬ c.val < 0xE := by omega
  have separator : ¬ c.val ≤ 0x1F := by omega
  have space : ¬ c.val < 0x20 := by omega
  have visible : ¬ c.val < 0x21 := by omega
  have ascii : c.val < 0x85 := by omega
  simp [CodePoint.isBlank, CodePoint.isWhiteSpace, whiteSpaceBounds, Ranges.contains,
    Ranges.containsFrom, tab, line, separator, space, visible, ascii]

theorem Inert.not_mem {u : Text} (inert : ∀ c ∈ u, Inert c) :
    CodePoint.ofChar '&' ∉ u ∧ CodePoint.ofChar '=' ∉ u :=
  ⟨fun member => (inert _ member).2.2.1 rfl, fun member => (inert _ member).2.2.2 rfl⟩

theorem inert_quote {t : Text} : ∀ c ∈ quote t, Inert c := by
  intro c member
  obtain ⟨d, -, member⟩ := List.mem_flatMap.mp member
  rw [quotePoint] at member
  split at member
  · next free =>
    obtain ⟨low, high, -, ampersand, -, equals⟩ := isUnreserved_bounds free
    rw [List.mem_singleton.mp member]
    exact ⟨low, high, ampersand, equals⟩
  · obtain ⟨b, -, member⟩ := List.mem_flatMap.mp member
    simp only [escapeOctet, List.mem_cons, List.not_mem_nil, or_false] at member
    rcases member with rfl | rfl | rfl
    · exact ⟨by decide, by decide, by decide, by decide⟩
    · have digit := upperHex_bounds ⟨b.val / 16, by omega⟩
      exact ⟨by omega, by omega, by omega, digit.2.2⟩
    · have digit := upperHex_bounds ⟨b.val % 16, by omega⟩
      exact ⟨by omega, by omega, by omega, digit.2.2⟩

end SearchTuning.QueryString

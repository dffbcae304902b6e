import SearchTuning.Proofs.Json.Number
import SearchTuning.Proofs.Json.Tokens

/-!
# Words of a document

A value without parts is written as a word, and the word is read back as the value.  Only a whole
number with more digits than any reader takes is not read back, and none such is ever read.
-/

namespace SearchTuning

/-- Whether a value without parts can be read from a document: a whole number has not too many
digits. -/
def Scalar.Readable : Scalar → Prop
  | .int n => (Numeral.digits n.natAbs).length ≤ Numeral.digitLimit
  | _ => True

/-- A whole number can be written just if it can be read. -/
theorem fits_iff_readable {n : Int} : Numeral.fits n = true ↔ (Scalar.int n).Readable :=
  decide_eq_true_iff

namespace Json

open Numeral (digits value)

/-! ## Reading a word -/

/-- A text with a minus sign in front, if it is negative. -/
def signed (negative : Bool) (t : Text) : Text :=
  if negative then CodePoint.ofChar '-' :: t else t

theorem exists_of_unsigned? {negative : Bool} {t : Text} {s : Scalar}
    (read : unsigned? negative t = some s) : ∃ whole fraction exponent, whole ≠ [] ∧
      Numeral.digits? (t.takeWhile CodePoint.isAsciiDigit) = some whole ∧
      assemble negative whole fraction exponent = some s := by
  unfold unsigned? at read
  obtain ⟨whole, wholeRead, read⟩ := Option.bind_eq_some_iff.mp read
  split at read
  · cases read
  · cases read
  · next filled _ =>
    obtain ⟨⟨fraction, rest⟩, -, read⟩ := Option.bind_eq_some_iff.mp read
    obtain ⟨exponent, -, read⟩ := Option.bind_eq_some_iff.mp read
    exact ⟨whole, fraction, exponent, filled, wholeRead, read⟩

/-- A number begins with a digit. -/
theorem exists_digit_of_unsigned? {negative : Bool} {t : Text} {s : Scalar}
    (read : unsigned? negative t = some s) :
    ∃ (d : Fin 10) (rest : Text), t = CodePoint.ofDigit d :: rest := by
  obtain ⟨whole, -, -, filled, wholeRead, -⟩ := exists_of_unsigned? read
  cases t with
  | nil =>
    cases wholeRead
    exact absurd rfl filled
  | cons c rest =>
    by_cases digit : c.isAsciiDigit = true
    · simp only [CodePoint.isAsciiDigit, Bool.and_eq_true, decide_eq_true_eq] at digit
      refine ⟨⟨c.val - 0x30, by omega⟩, rest, ?_⟩
      rw [CodePoint.ofDigit]
      congr 1
      apply Fin.ext
      simp only
      omega
    · rw [List.takeWhile_cons_of_neg digit] at wholeRead
      cases wholeRead
      exact absurd rfl filled

/-- The words that are no numbers. -/
def literals : List Text :=
  ["null", "true", "false", "NaN", "Infinity", "-Infinity"].map Text.ofString

theorem literals_begin : ∀ word ∈ literals, ∀ d : Fin 10,
    word.head? ≠ some (CodePoint.ofDigit d) ∧
    (word.head? = some (CodePoint.ofChar '-') → word.tail.head? ≠ some (CodePoint.ofDigit d)) := by
  decide +kernel

theorem scalar?_signed {negative : Bool} {t : Text} {s : Scalar}
    (read : unsigned? negative t = some s) : scalar? (signed negative t) = some s := by
  obtain ⟨d, rest, rfl⟩ := exists_digit_of_unsigned? read
  have other : ∀ word ∈ literals, signed negative (CodePoint.ofDigit d :: rest) ≠ word := by
    rintro word member rfl
    cases negative with
    | true => exact (literals_begin _ member d).2 rfl rfl
    | false => exact (literals_begin _ member d).1 rfl
  simp only [literals, List.map_cons, List.map_nil, List.forall_mem_cons] at other
  obtain ⟨null, yes, no, nan, infinite, negativeInfinite, -⟩ := other
  rw [scalar?, if_neg null, if_neg yes, if_neg no, if_neg nan, if_neg infinite,
    if_neg negativeInfinite]
  cases negative with
  | true =>
    rw [signed, if_pos rfl, number?, if_pos rfl]
    exact read
  | false =>
    have digit : ∀ d : Fin 10, CodePoint.ofDigit d ≠ '-' := by decide
    rw [signed, if_neg Bool.false_ne_true, number?, if_neg (digit d)]
    exact read

/-! ## Words are read back -/

theorem scalar?_ofInt {n : Int} (readable : (Scalar.int n).Readable) :
    scalar? (Numeral.ofInt n) = some (.int n) := by
  have read : ∀ negative (k : Nat), (digits k).length ≤ Numeral.digitLimit →
      unsigned? negative (Numeral.ofNat k) =
        some (.int (if negative then -Int.ofNat k else Int.ofNat k)) := by
    intro negative k few
    have parts := unsigned?_of_parts negative (proper_digits k) Numeral.endsRun_nil fraction?_nil rfl
    rw [List.append_nil, assemble, if_pos few, Numeral.value_digits] at parts
    exact parts
  cases n with
  | ofNat k => exact scalar?_signed (read false k readable)
  | negSucc k => exact scalar?_signed (read true (k + 1) readable)

/-- What a value without parts is written as is read back as that value. -/
theorem scalar?_scalarText {s : Scalar} (readable : s.Readable) :
    scalar? (scalarText s) = some s := by
  cases s with
  | null => decide +kernel
  | bool b => cases b <;> decide +kernel
  | int n => exact scalar?_ofInt readable
  | double x =>
    cases x with
    | nan => decide +kernel
    | infinite negative => cases negative <;> decide +kernel
    | finite negative rank =>
      have written : scalarText (.double (.finite negative rank)) =
          signed negative (Double.magnitudeText rank) := by
        cases negative with
        | true => rw [scalarText, Double.toText, signed, if_pos rfl]
        | false => rw [scalarText, Double.toText, signed, if_neg Bool.false_ne_true]
      rw [written]
      exact scalar?_signed (unsigned?_magnitudeText negative rank)

/-- Only numbers with few enough digits are read. -/
theorem readable_of_scalar? {word : Text} {s : Scalar} (read : scalar? word = some s) :
    s.Readable := by
  have number : ∀ negative t, unsigned? negative t = some s → s.Readable := by
    intro negative t read
    obtain ⟨whole, fraction, exponent, filled, -, made⟩ := exists_of_unsigned? read
    unfold assemble at made
    split at made
    · split at made
      · next few =>
        cases made
        refine Nat.le_trans (Numeral.length_digits_le (List.length_pos_iff.mpr filled) ?_) few
        have size : (if negative = true then -Int.ofNat (value whole)
            else Int.ofNat (value whole)).natAbs = value whole := by
          split
          · exact Int.natAbs_neg _
          · rfl
        rw [size]
        exact Numeral.value_lt whole
      · cases made
    · cases made
      trivial
  unfold scalar? at read
  -- The words that are no numbers come first.
  iterate 6
    split at read
    · cases read
      trivial
  cases word with
  | nil => cases read
  | cons c rest =>
    rw [number?] at read
    split at read
    · exact number true rest read
    · exact number false (c :: rest) read

/-! ## The code points of words -/

theorem isWordPoint_of_all {t : Text} (all : t.all isWordPoint = true) :
    ∀ c ∈ t, isWordPoint c = true := List.all_eq_true.mp all

theorem isWordPoint_ofDigit : ∀ d : Fin 10, isWordPoint (CodePoint.ofDigit d) = true := by
  decide

theorem isWordPoint_ofNat (n : Nat) : ∀ c ∈ Numeral.ofNat n, isWordPoint c = true := by
  intro c member
  obtain ⟨d, -, rfl⟩ := List.mem_map.mp member
  exact isWordPoint_ofDigit d

theorem isWordPoint_positional {t : Text} (points : ∀ c ∈ t, isWordPoint c = true) (point : Int) :
    ∀ c ∈ Double.positional t point, isWordPoint c = true := by
  have zeros : ∀ n, ∀ c ∈ List.replicate n (CodePoint.ofChar '0'), isWordPoint c = true := by
    intro n c member
    rw [List.eq_of_mem_replicate member]
    decide
  have leading : ∀ c ∈ Text.ofString "0.", isWordPoint c = true := isWordPoint_of_all (by decide)
  have trailing : ∀ c ∈ Text.ofString ".0", isWordPoint c = true := isWordPoint_of_all (by decide)
  have point : isWordPoint (CodePoint.ofChar '.') = true := by decide
  rw [Double.positional.eq_def]
  split
  · next n =>
    exact List.forall_mem_append.mpr ⟨List.forall_mem_append.mpr ⟨leading, zeros _⟩, points⟩
  · exact List.forall_mem_append.mpr ⟨leading, points⟩
  · next n _ =>
    split
    · refine List.forall_mem_append.mpr ⟨?_, List.forall_mem_cons.mpr ⟨point, ?_⟩⟩
      · exact fun c member => points c (List.mem_of_mem_take member)
      · exact fun c member => points c (List.mem_of_mem_drop member)
    · exact List.forall_mem_append.mpr ⟨List.forall_mem_append.mpr ⟨points, zeros _⟩, trailing⟩

theorem isWordPoint_scientific (d : Fin 10) (ds : List (Fin 10)) (exponent : Int) :
    ∀ c ∈ Double.scientific ((d :: ds).map CodePoint.ofDigit) exponent, isWordPoint c = true := by
  have digitPoints : ∀ es : List (Fin 10), ∀ c ∈ es.map CodePoint.ofDigit, isWordPoint c = true := by
    intro es c member
    obtain ⟨e, -, rfl⟩ := List.mem_map.mp member
    exact isWordPoint_ofDigit e
  rw [scientific_eq, exponentText]
  refine List.forall_mem_append.mpr ⟨digitPoints [d], List.forall_mem_append.mpr ⟨?_, ?_⟩⟩
  · split
    · exact List.forall_mem_nil _
    · exact List.forall_mem_cons.mpr ⟨by decide, digitPoints ds⟩
  · refine List.forall_mem_cons.mpr ⟨by decide, List.forall_mem_cons.mpr ⟨?_, digitPoints _⟩⟩
    split <;> decide

theorem isWordPoint_magnitudeText (rank : Fin Double.magnitudes) :
    ∀ c ∈ Double.magnitudeText rank, isWordPoint c = true := by
  rw [Double.magnitudeText]
  split
  · exact isWordPoint_of_all (by decide)
  · next some_rank =>
    obtain ⟨first, rest, point, eq, -, -⟩ :=
      exists_digits_eq (Double.coefficient_shortestDecimal_ne_zero some_rank)
    rw [eq]
    simp only
    split
    · apply isWordPoint_positional
      intro c member
      obtain ⟨d, -, rfl⟩ := List.mem_map.mp member
      exact isWordPoint_ofDigit d
    · exact isWordPoint_scientific first rest _

theorem isWordPoint_scalarText (s : Scalar) : ∀ c ∈ scalarText s, isWordPoint c = true := by
  have minus : isWordPoint (CodePoint.ofChar '-') = true := by decide
  cases s with
  | null => exact isWordPoint_of_all (by decide)
  | bool b => cases b <;> exact isWordPoint_of_all (by decide)
  | int n =>
    cases n with
    | ofNat k => exact isWordPoint_ofNat k
    | negSucc k => exact List.forall_mem_cons.mpr ⟨minus, isWordPoint_ofNat (k + 1)⟩
  | double x =>
    cases x with
    | nan => exact isWordPoint_of_all (by decide)
    | infinite negative => cases negative <;> exact isWordPoint_of_all (by decide)
    | finite negative rank =>
      cases negative with
      | true =>
        rw [scalarText, Double.toText]
        exact List.forall_mem_cons.mpr ⟨minus, isWordPoint_magnitudeText rank⟩
      | false =>
        rw [scalarText, Double.toText]
        exact isWordPoint_magnitudeText rank

/-! ## Words among tokens -/

/-- What may follow a word: nothing, or what is no part of a word and stands between tokens or
begins one. -/
def EndsWord (rest : Text) : Prop :=
  ∀ c, rest.head? = some c → isWordPoint c = false ∧ (start c).isSome = true

theorem tokensFrom_word {word : Text} (points : ∀ c ∈ word, isWordPoint c = true) (read rest : Text) :
    tokensFrom (.word read) (word ++ rest) = tokensFrom (.word (word.reverse ++ read)) rest := by
  induction word generalizing read with
  | nil => rfl
  | cons c word ih =>
    have stepped : Scan.step (.word read) c = some ([], .word (c :: read)) := by
      rw [Scan.step, if_pos (points c List.mem_cons_self)]
    rw [List.cons_append, tokensFrom_cons stepped, List.nil_append,
      ih fun d member => points d (List.mem_cons_of_mem c member), List.reverse_cons,
      List.append_assoc, List.singleton_append]

theorem tokensFrom_endsWord {read rest : Text} {s : Scalar} (found : scalar? read.reverse = some s)
    (ends : EndsWord rest) :
    tokensFrom (.word read) rest = .scalar s :: tokensFrom .between rest := by
  cases rest with
  | nil =>
    rw [tokensFrom, Scan.finish, found]
    rfl
  | cons c rest =>
    obtain ⟨other, starts⟩ := ends c rfl
    obtain ⟨⟨tokens, next⟩, started⟩ := Option.isSome_iff_exists.mp starts
    have stepped : Scan.step (.word read) c = some (.scalar s :: tokens, next) := by
      rw [Scan.step, other, found, if_neg Bool.false_ne_true]
      simp only [Option.bind_eq_bind, Option.bind_some, started]
      rfl
    have begun : Scan.step .between c = some (tokens, next) := started
    rw [tokensFrom_cons stepped, tokensFrom_cons begun, List.cons_append]

theorem start_of_isWordPoint {c : CodePoint} (point : isWordPoint c = true) :
    start c = some ([], .word [c]) := by
  have space : isSpace c = false := by
    refine Bool.eq_false_iff.mpr fun space => ?_
    rw [not_isWordPoint_of_isSpace space] at point
    cases point
  have quote : c ≠ '"' := by
    rintro rfl
    exact absurd point (by decide)
  rw [start, space, if_neg Bool.false_ne_true, if_neg quote, if_pos point]

/-- A value without parts is one token, whatever ends its word. -/
theorem tokensFrom_scalarText {s : Scalar} (readable : s.Readable) {rest : Text}
    (ends : EndsWord rest) :
    tokensFrom .between (scalarText s ++ rest) = .scalar s :: tokensFrom .between rest := by
  have back := scalar?_scalarText readable
  have points := isWordPoint_scalarText s
  cases written : scalarText s with
  | nil =>
    have none : scalar? [] = none := by decide +kernel
    rw [written, none] at back
    cases back
  | cons c word =>
    rw [written] at back points
    have started : Scan.step .between c = some ([], .word [c]) :=
      start_of_isWordPoint (points c List.mem_cons_self)
    have reversed : (word.reverse ++ [c]).reverse = c :: word := by
      rw [List.reverse_append, List.reverse_reverse, List.reverse_singleton, List.singleton_append]
    rw [List.cons_append, tokensFrom_cons started, List.nil_append,
      tokensFrom_word fun d member => points d (List.mem_cons_of_mem c member)]
    exact tokensFrom_endsWord (reversed ▸ back) ends

end Json

end SearchTuning

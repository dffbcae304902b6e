import Mathlib.Data.List.TakeWhile
import SearchTuning.Json.Printer
import SearchTuning.Json.Token
import SearchTuning.Proofs.Double.Rounding
import SearchTuning.Proofs.Text.Numeral

/-!
# Numbers written and read back

Whole numbers are read back from their digits, and doubles from the digits of their shortest
decimals, in either form and with either sign.
-/

namespace SearchTuning.Json

open Numeral (EndsRun digits value)

/-! ## Reading digits -/

/-- Digits of which the first is zero only if it is the only one. -/
def Proper : List (Fin 10) → Prop
  | [] => False
  | d :: ds => d = 0 → ds = []

theorem proper_digits (n : Nat) : Proper (digits n) := by
  cases eq : digits n with
  | nil => exact absurd eq (Numeral.digits_ne_nil n)
  | cons d ds =>
    rintro rfl
    exact (Numeral.digits_cons_zero eq).2

/-- The number that is read from a whole part, a fraction and an exponent. -/
def assemble (negative : Bool) (whole : List (Fin 10)) (fraction : Option (List (Fin 10)))
    (exponent : Option Int) : Option Scalar :=
  match fraction, exponent with
  | none, none =>
      if whole.length ≤ Numeral.digitLimit then
        let n := Int.ofNat (value whole)
        some (.int (if negative then -n else n))
      else none
  | _, _ =>
      let decimals := fraction.getD []
      some (.double (Double.ofDecimal negative (value (whole ++ decimals))
        (exponent.getD 0 - decimals.length)))

theorem unsigned?_of_parts (negative : Bool) {whole : List (Fin 10)} (proper : Proper whole)
    {rest tail : Text} (ends : EndsRun rest) {fraction : Option (List (Fin 10))}
    (fractionRead : fraction? rest = some (fraction, tail)) {exponent : Option Int}
    (exponentRead : exponent? tail = some exponent) :
    unsigned? negative (whole.map CodePoint.ofDigit ++ rest) =
      assemble negative whole fraction exponent := by
  rw [unsigned?, Numeral.takeWhile_digits whole ends, Numeral.dropWhile_digits whole ends,
    Numeral.digits?_map, fractionRead]
  simp only [bind, Option.bind, exponentRead]
  split
  · exact proper.elim
  · cases proper rfl
  · rfl

/-! ## Fractions and exponents -/

theorem fraction?_nil : fraction? [] = some (none, []) := rfl

theorem fraction?_digits {ds : List (Fin 10)} (filled : ds ≠ []) {rest : Text}
    (ends : EndsRun rest) :
    fraction? (CodePoint.ofChar '.' :: (ds.map CodePoint.ofDigit ++ rest)) =
      some (some ds, rest) := by
  rw [fraction?, if_pos rfl, Numeral.takeWhile_digits ds ends, Numeral.dropWhile_digits ds ends]
  obtain ⟨d, ds, rfl⟩ := List.exists_cons_of_ne_nil filled
  have read := Numeral.digits?_map (d :: ds)
  rw [List.map_cons] at read ⊢
  simp only [read]
  rfl

/-- An exponent as it is written: a letter, a sign, and digits. -/
def exponentText (negative : Bool) (size : Text) : Text :=
  CodePoint.ofChar 'e' :: (if negative then '-' else '+') :: size

theorem endsRun_exponentText (negative : Bool) (size : Text) :
    EndsRun (exponentText negative size) :=
  Numeral.endsRun_cons (by decide) _

theorem fraction?_exponentText (negative : Bool) (size : Text) :
    fraction? (exponentText negative size) = some (none, exponentText negative size) := by
  rw [exponentText, fraction?, if_neg (by decide)]

theorem exponent?_exponentText (negative : Bool) {ds : List (Fin 10)} (filled : ds ≠ []) :
    exponent? (exponentText negative (ds.map CodePoint.ofDigit)) =
      some (some (if negative then -Int.ofNat (value ds) else Int.ofNat (value ds))) := by
  obtain ⟨d, ds, rfl⟩ := List.exists_cons_of_ne_nil filled
  have read := Numeral.digits?_map (d :: ds)
  rw [List.map_cons] at read
  rw [exponentText, exponent?, if_pos (.inl rfl)]
  cases negative with
  | true => simp only [if_true, List.map_cons, read]
  | false =>
    have other : CodePoint.ofChar '+' ≠ '-' := by decide
    simp only [Bool.false_eq_true, if_false, if_neg other, if_true, List.map_cons, read]

/-! ## Doubles -/

variable (negative : Bool)

theorem unsigned?_fraction {whole fraction : List (Fin 10)} (proper : Proper whole)
    (filled : fraction ≠ []) :
    unsigned? negative (whole.map CodePoint.ofDigit ++
        CodePoint.ofChar '.' :: fraction.map CodePoint.ofDigit) =
      some (.double (Double.ofDecimal negative (value (whole ++ fraction)) (-fraction.length))) := by
  have fractionRead := fraction?_digits filled Numeral.endsRun_nil
  rw [List.append_nil] at fractionRead
  rw [unsigned?_of_parts negative proper (Numeral.endsRun_cons (by decide) _) fractionRead rfl,
    ← Int.zero_sub]
  rfl

/-- Digits with a point before, among or after them stand for the digits at the place of the
point. -/
theorem unsigned?_positional {d : Fin 10} (nonzero : d ≠ 0) (ds : List (Fin 10)) (point : Int) :
    unsigned? negative (Double.positional ((d :: ds).map CodePoint.ofDigit) point) =
      some (.double (Double.ofDecimal negative (value (d :: ds)) (point - (d :: ds).length))) := by
  have zero : Proper [0] := fun _ => rfl
  have proper : ∀ rest, Proper (d :: rest) := fun _ same => absurd same nonzero
  rw [Double.positional.eq_def]
  split
  · next n =>
    have filled : List.replicate (n + 1) 0 ++ d :: ds ≠ [] :=
      List.append_ne_nil_of_right_ne_nil _ (List.cons_ne_nil d ds)
    have read := unsigned?_fraction negative zero filled
    have written : value ([0] ++ (List.replicate (n + 1) 0 ++ d :: ds)) = value (d :: ds) := by
      rw [← List.append_assoc]
      exact Numeral.value_zeros_append (n + 2) (d :: ds)
    have exponent : (-((List.replicate (n + 1) 0 ++ d :: ds).length : Int)) =
        Int.negSucc n - (d :: ds).length := by
      rw [List.length_append, List.length_replicate]
      omega
    rw [written, exponent, List.map_append, List.map_replicate] at read
    exact read
  · have read := unsigned?_fraction negative zero (List.cons_ne_nil d ds)
    have written : value ([0] ++ d :: ds) = value (d :: ds) :=
      Numeral.value_zeros_append 1 (d :: ds)
    rw [written, ← Int.zero_sub] at read
    exact read
  · next n some_place =>
    rw [List.length_map]
    split
    · next among =>
      obtain ⟨n, rfl⟩ := Nat.exists_eq_succ_of_ne_zero some_place
      have filled : (d :: ds).drop (n + 1) ≠ [] := by
        rw [ne_eq, List.drop_eq_nil_iff]
        omega
      have read := unsigned?_fraction negative (proper (ds.take n)) filled
      rw [← List.take_succ_cons, List.take_append_drop, List.length_drop, List.map_take,
        List.map_drop] at read
      have exponent : (-(((d :: ds).length - (n + 1) : Nat) : Int)) =
          Int.ofNat (n + 1) - (d :: ds).length := by
        rw [Int.ofNat_eq_natCast]
        omega
      rw [exponent] at read
      exact read
    · next after =>
      have read := unsigned?_fraction negative
        (proper (ds ++ List.replicate (n - (d :: ds).length) 0)) (List.cons_ne_nil 0 [])
      rw [← List.cons_append, List.append_assoc, ← List.replicate_succ', Numeral.value_append_zeros,
        Double.ofDecimal_scale] at read
      have exponent : -(([0] : List (Fin 10)).length : Int) + (n - (d :: ds).length + 1 : Nat) =
          Int.ofNat n - (d :: ds).length := by
        rw [Int.ofNat_eq_natCast, List.length_singleton]
        omega
      rw [exponent, List.map_append, List.map_replicate] at read
      exact read

/-- The digits of the size of an exponent, two at least. -/
def sizeDigits (n : Nat) : List (Fin 10) :=
  if (digits n).length < 2 then 0 :: digits n else digits n

theorem value_sizeDigits (n : Nat) : value (sizeDigits n) = n := by
  rw [sizeDigits]
  split
  · exact (Numeral.value_zeros_append 1 (digits n)).trans (Numeral.value_digits n)
  · exact Numeral.value_digits n

theorem sizeDigits_ne_nil (n : Nat) : sizeDigits n ≠ [] := by
  rw [sizeDigits]
  split
  · exact List.cons_ne_nil 0 _
  · exact Numeral.digits_ne_nil n

theorem scientific_eq (d : Fin 10) (ds : List (Fin 10)) (exponent : Int) :
    Double.scientific ((d :: ds).map CodePoint.ofDigit) exponent =
      [d].map CodePoint.ofDigit ++
        ((if ds = [] then [] else CodePoint.ofChar '.' :: ds.map CodePoint.ofDigit) ++
          exponentText (exponent < 0) ((sizeDigits exponent.natAbs).map CodePoint.ofDigit)) := by
  have size : (if (Numeral.ofNat exponent.natAbs).length < 2 then
      CodePoint.ofChar '0' :: Numeral.ofNat exponent.natAbs else Numeral.ofNat exponent.natAbs) =
      (sizeDigits exponent.natAbs).map CodePoint.ofDigit := by
    rw [sizeDigits, Numeral.ofNat, List.length_map]
    split
    · rfl
    · rfl
  unfold Double.scientific
  simp only [size]
  cases ds with
  | nil => simp [exponentText]
  | cons e ds => simp [exponentText]

/-- Digits with an exponent stand for the digits at the place that the exponent gives. -/
theorem unsigned?_scientific (d : Fin 10) (ds : List (Fin 10)) (exponent : Int) :
    unsigned? negative (Double.scientific ((d :: ds).map CodePoint.ofDigit) exponent) =
      some (.double (Double.ofDecimal negative (value (d :: ds)) (exponent - ds.length))) := by
  have proper : Proper [d] := fun _ => rfl
  have exponentRead := exponent?_exponentText (exponent < 0) (sizeDigits_ne_nil exponent.natAbs)
  have signed : (if decide (exponent < 0) then -Int.ofNat (value (sizeDigits exponent.natAbs))
      else Int.ofNat (value (sizeDigits exponent.natAbs))) = exponent := by
    rw [value_sizeDigits, Int.ofNat_eq_natCast]
    split
    · next below => have := of_decide_eq_true below; omega
    · next above => have := of_decide_eq_false (Bool.not_eq_true _ ▸ above); omega
  rw [signed] at exponentRead
  rw [scientific_eq]
  cases ds with
  | nil =>
    have read := unsigned?_of_parts negative proper (endsRun_exponentText _ _)
      (fraction?_exponentText _ _) exponentRead
    exact read
  | cons e ds =>
    have fractionRead := fraction?_digits (List.cons_ne_nil e ds)
      (endsRun_exponentText (exponent < 0) ((sizeDigits exponent.natAbs).map CodePoint.ofDigit))
    have read := unsigned?_of_parts negative proper (Numeral.endsRun_cons (by decide) _)
      fractionRead exponentRead
    exact read

/-- The digits of a decimal, taken at the place of its point, stand for the decimal. -/
theorem exists_digits_eq {d : Double.Decimal} (nonzero : d.coefficient ≠ 0) :
    ∃ first rest point, d.digits = (first :: rest, point) ∧ first ≠ 0 ∧ ∀ negative,
      Double.ofDecimal negative (value (first :: rest)) (point - (first :: rest).length) =
        Double.ofDecimal negative d.coefficient d.exponent := by
  let all := digits d.coefficient
  let kept := (all.reverse.dropWhile fun d => d.val = 0).reverse
  obtain ⟨k, zeros⟩ : ∃ k, all.reverse.takeWhile (fun d => d.val = 0) = List.replicate k 0 := by
    refine ⟨_, List.eq_replicate_of_mem fun digit member => ?_⟩
    have none := List.mem_takeWhile_imp member
    exact Fin.ext (of_decide_eq_true none)
  have split : all = kept ++ List.replicate k 0 := by
    rw [← List.reverse_replicate, ← zeros, ← List.reverse_append, List.takeWhile_append_dropWhile,
      List.reverse_reverse]
  have worth : value kept * 10 ^ k = d.coefficient := by
    rw [← Numeral.value_append_zeros, ← split]
    exact Numeral.value_digits d.coefficient
  cases eq : kept with
  | nil =>
    rw [eq] at worth
    exact absurd ((Nat.zero_mul _).symm.trans worth).symm nonzero
  | cons first rest =>
    have length : all.length = (first :: rest).length + k := by
      rw [split, eq, List.length_append, List.length_replicate]
    have place : (all.length + d.exponent) - ((first :: rest).length : Int) = d.exponent + k := by
      rw [length]
      omega
    refine ⟨first, rest, all.length + d.exponent, ?_, ?_, ?_⟩
    · exact Prod.ext eq rfl
    · rintro rfl
      rw [eq] at split
      exact nonzero (Numeral.digits_cons_zero split).1
    · intro negative
      rw [place, ← Double.ofDecimal_scale, ← eq, worth]

/-- The text of a magnitude is read back as that magnitude, with either sign. -/
theorem unsigned?_magnitudeText (rank : Fin Double.magnitudes) :
    unsigned? negative (Double.magnitudeText rank) = some (.double (.finite negative rank)) := by
  rw [Double.magnitudeText]
  split
  · next none =>
    have proper : Proper [0] := fun _ => rfl
    have read := unsigned?_fraction negative proper (List.cons_ne_nil 0 [])
    have zero : Double.ofDecimal negative (value ([0] ++ [0])) (-([0] : List (Fin 10)).length) =
        .finite negative rank := by
      have least : Double.rankOfDecimal (value ([0] ++ [0])) (-([0] : List (Fin 10)).length) = 0 :=
        Double.rankOfDecimal_of_small (.inl rfl)
      rw [Double.ofDecimal_eq, least, ← none]
      exact dif_pos rank.isLt
    rw [zero] at read
    exact read
  · next some_rank =>
    obtain ⟨first, rest, point, eq, nonzero, back⟩ :=
      exists_digits_eq (Double.coefficient_shortestDecimal_ne_zero some_rank)
    rw [eq]
    simp only
    have same := (back negative).trans (Double.ofDecimal_shortestDecimal negative rank)
    split
    · rw [unsigned?_positional negative nonzero, same]
    · have place : point - 1 - rest.length = point - (first :: rest).length := by
        rw [List.length_cons]
        omega
      rw [unsigned?_scientific, place, same]

end SearchTuning.Json

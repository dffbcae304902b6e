import Mathlib.Data.List.Induction
import Mathlib.Tactic.Ring
import SearchTuning.Text.Numeral

/-!
# Digits and their values

A number has the value of its digits, zeros in front of digits change nothing, and a run of digits
in a text is read back as the digits.
-/

namespace SearchTuning.Numeral

/-! ## Values -/

theorem foldl_eq (ds : List (Fin 10)) (n : Nat) :
    ds.foldl (fun n d => 10 * n + d.val) n = n * 10 ^ ds.length + value ds := by
  induction ds generalizing n with
  | nil => simp [value]
  | cons d ds ih =>
    have tail := ih (10 * 0 + d.val)
    rw [value, List.foldl_cons, List.foldl_cons, ih, tail, List.length_cons]
    ring

theorem value_append (as bs : List (Fin 10)) :
    value (as ++ bs) = value as * 10 ^ bs.length + value bs := by
  rw [value, List.foldl_append, foldl_eq, ← value]

theorem value_singleton (d : Fin 10) : value [d] = d.val := by
  rw [value, List.foldl_cons, List.foldl_nil, Nat.mul_zero, Nat.zero_add]

theorem value_replicate_zero (k : Nat) : value (List.replicate k 0) = 0 := by
  induction k with
  | zero => rfl
  | succ k ih =>
    rw [List.replicate_succ', value_append, ih, value_singleton, Nat.zero_mul]
    rfl

/-- Zeros at the end of digits are powers of ten. -/
theorem value_append_zeros (ds : List (Fin 10)) (k : Nat) :
    value (ds ++ List.replicate k 0) = value ds * 10 ^ k := by
  rw [value_append, value_replicate_zero, List.length_replicate, Nat.add_zero]

/-- Zeros in front of digits change nothing. -/
theorem value_zeros_append (k : Nat) (ds : List (Fin 10)) :
    value (List.replicate k 0 ++ ds) = value ds := by
  rw [value_append, value_replicate_zero, Nat.zero_mul, Nat.zero_add]

theorem value_lt (ds : List (Fin 10)) : value ds < 10 ^ ds.length := by
  induction ds using List.reverseRecOn with
  | nil => decide
  | append_singleton ds d ih =>
    rw [value_append, value_singleton, List.length_append, List.length_singleton, Nat.pow_succ]
    omega

theorem value_lt_pow_of_length_le {ds : List (Fin 10)} {k : Nat} (few : ds.length ≤ k) :
    value ds < 10 ^ k :=
  Nat.lt_of_lt_of_le (value_lt ds) (Nat.pow_le_pow_right (by decide) few)

/-! ## The digits of a number -/

theorem value_digits (n : Nat) : value (digits n) = n := by
  induction n using digits.induct with
  | case1 n small =>
    rw [digits, dif_pos small, value_singleton]
  | case2 n great ih =>
    rw [digits, dif_neg great, value_append, ih, value_singleton, List.length_singleton]
    show n / 10 * 10 ^ 1 + n % 10 = n
    omega

theorem digits_ne_nil (n : Nat) : digits n ≠ [] := by
  rw [digits]
  split
  · exact List.cons_ne_nil _ _
  · exact List.append_ne_nil_of_right_ne_nil _ (List.cons_ne_nil _ _)

/-- The first digit is zero only where the number is. -/
theorem digits_cons_zero {n : Nat} {ds : List (Fin 10)} (zero : digits n = 0 :: ds) :
    n = 0 ∧ ds = [] := by
  induction n using digits.induct generalizing ds with
  | case1 n small =>
    rw [digits, dif_pos small] at zero
    cases zero
    exact ⟨rfl, rfl⟩
  | case2 n great ih =>
    obtain ⟨d, front, eq⟩ := List.exists_cons_of_ne_nil (digits_ne_nil (n / 10))
    rw [digits, dif_neg great, eq, List.cons_append] at zero
    have first : d = 0 := (List.cons.inj zero).1
    have none := (ih (first ▸ eq)).1
    omega

theorem length_digits_le {n k : Nat} (some_digit : 0 < k) (small : n < 10 ^ k) :
    (digits n).length ≤ k := by
  induction n using digits.induct generalizing k with
  | case1 n one =>
    rw [digits, dif_pos one]
    exact some_digit
  | case2 n great ih =>
    have more : 1 < k := by
      refine Nat.lt_of_not_le fun few => great ?_
      have : k = 1 := by omega
      rw [this] at small
      exact small
    obtain ⟨k, rfl⟩ : ∃ j, k = j + 1 := ⟨k - 1, by omega⟩
    have front := ih (k := k) (by omega) (by rw [Nat.pow_succ] at small; omega)
    rw [digits, dif_neg great, List.length_append, List.length_singleton]
    omega

/-- A number can be written just if it is less than the least one with a digit too many. -/
theorem fits_iff {n : Int} : fits n = true ↔ n.natAbs < 10 ^ digitLimit := by
  rw [fits, decide_eq_true_iff]
  constructor
  · intro few
    have small := value_lt_pow_of_length_le few
    rwa [value_digits] at small
  · exact length_digits_le (by decide)

theorem not_fits_pow : fits (10 ^ digitLimit) = false := by
  rw [← Bool.not_eq_true, fits_iff, Int.natAbs_pow]
  generalize digitLimit = limit
  exact Nat.lt_irrefl (10 ^ limit)

/-! ## Digits in a text -/

theorem isAsciiDigit_ofDigit : ∀ d : Fin 10, (CodePoint.ofDigit d).isAsciiDigit = true := by
  decide

theorem digits?_map (ds : List (Fin 10)) : digits? (ds.map CodePoint.ofDigit) = some ds := by
  have back : ∀ d : Fin 10, (CodePoint.ofDigit d).digitValue? = some d := by decide
  induction ds with
  | nil => rfl
  | cons d ds ih =>
    rw [digits?] at ih ⊢
    rw [List.map_cons, List.mapM_cons, back, ih]
    rfl

/-- What is no digit ends a run of digits. -/
def EndsRun (rest : Text) : Prop := ∀ c, rest.head? = some c → c.isAsciiDigit = false

theorem endsRun_nil : EndsRun [] := fun _ first => nomatch first

theorem endsRun_cons {c : CodePoint} (other : c.isAsciiDigit = false) (rest : Text) :
    EndsRun (c :: rest) := by
  intro d first
  cases first
  exact other

theorem takeWhile_digits (ds : List (Fin 10)) {rest : Text} (ends : EndsRun rest) :
    (ds.map CodePoint.ofDigit ++ rest).takeWhile CodePoint.isAsciiDigit =
      ds.map CodePoint.ofDigit := by
  induction ds with
  | nil =>
    cases rest with
    | nil => rfl
    | cons c rest => exact List.takeWhile_cons_of_neg (by rw [ends c rfl]; exact Bool.false_ne_true)
  | cons d ds ih =>
    rw [List.map_cons, List.cons_append, List.takeWhile_cons_of_pos (isAsciiDigit_ofDigit d), ih]

theorem dropWhile_digits (ds : List (Fin 10)) {rest : Text} (ends : EndsRun rest) :
    (ds.map CodePoint.ofDigit ++ rest).dropWhile CodePoint.isAsciiDigit = rest := by
  induction ds with
  | nil =>
    cases rest with
    | nil => rfl
    | cons c rest => exact List.dropWhile_cons_of_neg (by rw [ends c rfl]; exact Bool.false_ne_true)
  | cons d ds ih =>
    rw [List.map_cons, List.cons_append, List.dropWhile_cons_of_pos (isAsciiDigit_ofDigit d), ih]

end SearchTuning.Numeral

import SearchTuning.Text.Basic

/-!
# Numerals

Whole numbers in decimal digits, and numbers of fixed width in hexadecimal digits.
-/

namespace SearchTuning.Numeral

/-- The decimal digits of a number, the first not zero unless the number is. -/
def digits (n : Nat) : List (Fin 10) :=
  if h : n < 10 then [⟨n, h⟩] else digits (n / 10) ++ [⟨n % 10, by omega⟩]
termination_by n
decreasing_by omega

/-- The most digits that a whole number may be read or written with. -/
def digitLimit : Nat := 4300

/-- The number that decimal digits stand for. -/
def value (ds : List (Fin 10)) : Nat := ds.foldl (fun n d => 10 * n + d.val) 0

/-- A number as text. -/
def ofNat (n : Nat) : Text := (digits n).map CodePoint.ofDigit

/-- A number as text, with a minus sign before a negative one. -/
def ofInt : Int → Text
  | .ofNat n => ofNat n
  | .negSucc n => '-' :: ofNat (n + 1)

/-- Whether a number has few enough digits to be written. -/
def fits (n : Int) : Bool := (digits n.natAbs).length ≤ digitLimit

/-- The digits of a text that is all ASCII digits. -/
def digits? (t : Text) : Option (List (Fin 10)) := t.mapM CodePoint.digitValue?

/-- The last so many hexadecimal digits of a number, in lower case. -/
def hex : Nat → Nat → Text
  | 0, _ => []
  | width + 1, n => hex width (n / 16) ++ [CodePoint.lowerHex ⟨n % 16, by omega⟩]

end SearchTuning.Numeral

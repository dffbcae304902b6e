import SearchTuning.Double.Basic
import SearchTuning.Text.Numeral

/-!
# The shortest decimal of a double

A number is written with the fewest digits that read back as the same number; of the decimals with
so many digits, with the one nearest to it, and of two equally near ones, with the even one.
-/

namespace SearchTuning.Double

/-- A decimal `coefficient * 10 ^ exponent`. -/
structure Decimal where
  coefficient : Nat
  exponent : Int
  deriving DecidableEq, Repr

/-- Whether a decimal reads back as the magnitude with a given rank. -/
def Decimal.readsAs (d : Decimal) (rank : Nat) : Bool :=
  ofDecimal false d.coefficient d.exponent = ofRank false rank

/-- The position of the decimal point: the magnitude is less than ten to this power, and not less
than a tenth of that.  Every magnitude but zero has a digit before the four hundredth place. -/
def pointPosition (rank : Nat) : Int :=
  (Numeral.digits (steps rank * Nat.pow 10 400 / unit)).length - 400

/-- Of two decimals the one that reads back as the magnitude with a given rank; of two that do, the
one that is nearer. -/
def choose? (rank : Nat) (below above : Decimal) (belowNearer : Bool) : Option Decimal :=
  match below.readsAs rank, above.readsAs rank with
  | true, true => some (if belowNearer then below else above)
  | true, false => some below
  | false, true => some above
  | false, false => none

/-- The decimal with a given exponent that is nearest to a magnitude among those that read back. -/
def decimalAt? (rank : Nat) (exponent : Int) : Option Decimal :=
  let (num, den) :=
    match exponent with
    | .ofNat e => (steps rank, unit * Nat.pow 10 e)
    | .negSucc e => (steps rank * Nat.pow 10 (e + 1), unit)
  choose? rank ⟨num / den, exponent⟩ ⟨num / den + 1, exponent⟩ (roundHalfEven num den = num / den)

/-- The decimal with a given number of digits that is nearest among those that read back. -/
def nearestDecimal? (rank count : Nat) : Option Decimal :=
  decimalAt? rank (pointPosition rank - count)

/-- The magnitude itself, written out. -/
def exactDecimal (rank : Nat) : Decimal := ⟨steps rank * Nat.pow 5 1074, -1074⟩

/-- The shortest decimal that reads back as the magnitude with a given rank. -/
def shortestDecimal (rank : Nat) : Decimal :=
  ((List.range 17).findSome? fun n => nearestDecimal? rank (n + 1)).getD (exactDecimal rank)

end SearchTuning.Double

import SearchTuning.Double.Shortest

/-!
# Doubles as text

Numbers are written positionally while their point stands near their digits, and with an exponent
of ten otherwise.  Either form shows that the number is no whole number by type: it has a point or
an exponent.
-/

namespace SearchTuning.Double

/-- The words for the values that are not finite. -/
structure Words where
  nan : Text
  infinity : Text

/-- The digits of a decimal without zeros at the end, and the position of its point. -/
def Decimal.digits (d : Decimal) : List (Fin 10) × Int :=
  let all := Numeral.digits d.coefficient
  (((all.reverse.dropWhile fun d => d.val = 0).reverse), all.length + d.exponent)

/-- Digits with a point among them, before them or after them. -/
def positional (digits : Text) (point : Int) : Text :=
  match point with
  | .negSucc n => Text.ofString "0." ++ List.replicate (n + 1) (CodePoint.ofChar '0') ++ digits
  | .ofNat 0 => Text.ofString "0." ++ digits
  | .ofNat n =>
      if n < digits.length then digits.take n ++ CodePoint.ofChar '.' :: digits.drop n
      else digits ++ List.replicate (n - digits.length) (CodePoint.ofChar '0') ++ Text.ofString ".0"

/-- Digits with a point after the first, if there are more, and an exponent of at least two
digits with its sign. -/
def scientific (digits : Text) (exponent : Int) : Text :=
  let mantissa :=
    match digits with
    | [] => []
    | [d] => [d]
    | d :: rest => d :: '.' :: rest
  let size := Numeral.ofNat exponent.natAbs
  let size := if size.length < 2 then CodePoint.ofChar '0' :: size else size
  mantissa ++ CodePoint.ofChar 'e' :: (if exponent < 0 then '-' else '+') :: size

/-- The magnitude with a given rank: positional from `0.0001` up to below ten to the sixteenth. -/
def magnitudeText (rank : Nat) : Text :=
  if rank = 0 then Text.ofString "0.0"
  else
    let (digits, point) := (shortestDecimal rank).digits
    let digits := digits.map CodePoint.ofDigit
    if -4 < point ∧ point ≤ 16 then positional digits point else scientific digits (point - 1)

/-- A number as text. -/
def toText (words : Words) : Double → Text
  | .nan => words.nan
  | .infinite false => words.infinity
  | .infinite true => '-' :: words.infinity
  | .finite false rank => magnitudeText rank.val
  | .finite true rank => '-' :: magnitudeText rank.val

end SearchTuning.Double

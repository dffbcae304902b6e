import SearchTuning.Text.Blank
import SearchTuning.Text.DecimalDigit
import SearchTuning.Text.Numeral

/-!
# Whole numbers in settings

Numbers in settings and ports may be written with the decimal digits of any script, with single
underscores between digits, with a sign, and with white space around them.
-/

namespace SearchTuning.Numeral

/-- The white space that may stand around a number: in ASCII, only the space and the controls from
the tabulator to the carriage return. -/
def isPadding (c : CodePoint) : Bool :=
  if c.isAscii then c = ' ' || (0x09 ≤ c.val && c.val ≤ 0x0D) else c.isBlank

/-- The value of digits with single underscores between them. -/
def readNat? (t : Text) : Option Nat :=
  let groups := t.splitOn '_'
  if groups.contains [] ∨ digitLimit < groups.flatten.length then none
  else (groups.flatten.mapM CodePoint.decimalValue?).map value

/-- The value of a number with an optional sign. -/
def readInt? (t : Text) : Option Int :=
  match t.trimBy isPadding with
  | [] => none
  | c :: rest =>
      if c = '-' then (readNat? rest).map fun n => -Int.ofNat n
      else if c = '+' then (readNat? rest).map Int.ofNat
      else (readNat? (c :: rest)).map Int.ofNat

end SearchTuning.Numeral

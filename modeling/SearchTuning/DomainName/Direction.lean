import SearchTuning.Text.Mark
import SearchTuning.Text.Printable

/-!
# Directions

The direction in which a code point of a label is written, and the rule for labels that hold letters
written from right to left: only then is the place of every letter and digit plain.
-/

namespace SearchTuning

/-- The direction of a code point. -/
inductive Direction where
  | leftToRight
  | rightToLeft
  | arabicLetter
  | arabicNumber
  | europeanNumber
  | hyphen
  /-- The direction of a code point that is no letter, digit or mark. -/
  | neutral
  /-- A joiner or a non-joiner. -/
  | widthless
  /-- A mark, which has the direction of the letter before it. -/
  | mark
  deriving DecidableEq, Repr

/-- The boundaries of the letters of the scripts written from right to left, Arabic apart. -/
def rightToLeftBounds : List Nat := [
    0x5D0, 0x5F5, 0x7C0, 0x7EB, 0x7F4, 0x7F6, 0x800, 0x816, 0x81A, 0x81B, 0x824, 0x825, 0x828,
    0x829, 0x840, 0x859, 0x10800, 0x1093A, 0x10980, 0x10A01, 0x10A10, 0x10A36, 0x10A60, 0x10AE5,
    0x10B00, 0x10CF3, 0x10E80, 0x10EAA, 0x10EB0, 0x10EB2, 0x10F00, 0x10F28, 0x10F70, 0x10F82,
    0x10FB0, 0x10FF7, 0x1E800, 0x1E8C5, 0x1E922, 0x1E944, 0x1E94B, 0x1E95A]

/-- The boundaries of the letters of Arabic and of the scripts like it. -/
def arabicLetterBounds : List Nat := [
    0x620, 0x64B, 0x66E, 0x670, 0x671, 0x6D6, 0x6E5, 0x6E7, 0x6EE, 0x6F0, 0x6FA, 0x711, 0x712,
    0x730, 0x74D, 0x7A6, 0x7B1, 0x7B2, 0x860, 0x88F, 0x8A0, 0x8CA, 0xFE73, 0xFE74, 0x10D00,
    0x10D24, 0x10F30, 0x10F46]

/-- The boundaries of the digits of Arabic. -/
def arabicNumberBounds : List Nat := [
    0x660, 0x66A, 0x10D30, 0x10D3A]

/-- The boundaries of the digits that are written from left to right everywhere. -/
def europeanNumberBounds : List Nat := [
    0x30, 0x3A, 0x6F0, 0x6FA]

/-- The boundaries of the code points without a direction. -/
def neutralBounds : List Nat := [
    0xB7, 0xB8, 0x2B9, 0x2BB, 0x2C6, 0x2D0, 0x2EC, 0x2ED, 0x375, 0x376, 0x2E2F, 0x2E30, 0x30FB,
    0x30FC, 0xA67F, 0xA680, 0xA717, 0xA720, 0xA788, 0xA789]

/-- The boundaries of the nonspacing marks that have a direction of their own, from left to
right. -/
def spacedMarkBounds : List Nat := [
    0xCBF, 0xCC0, 0xCC6, 0xCC7, 0x11A07, 0x11A09, 0x11C3F, 0x11C40]

/-- The direction of a code point that may stand in a label, if it is assigned. -/
def CodePoint.direction? (c : CodePoint) : Option Direction :=
  if c.val = 0x200C ∨ c.val = 0x200D then some .widthless
  else if !c.isPrintable then none
  else if c.val = 0x2D then some .hyphen
  else if Ranges.contains rightToLeftBounds c.val then some .rightToLeft
  else if Ranges.contains arabicLetterBounds c.val then some .arabicLetter
  else if Ranges.contains arabicNumberBounds c.val then some .arabicNumber
  else if Ranges.contains europeanNumberBounds c.val then some .europeanNumber
  else if Ranges.contains neutralBounds c.val then some .neutral
  else if Ranges.contains spacedMarkBounds c.val then some .leftToRight
  else if c.isNonspacingMark then some .mark
  else some .leftToRight

namespace Direction

/-- The directions that make the rule apply. -/
def isRightToLeft : Direction → Bool
  | .rightToLeft | .arabicLetter | .arabicNumber => true
  | _ => false

/-- The directions with which a label that the rule applies to may end, marks apart. -/
def canEnd : Direction → Bool
  | .rightToLeft | .arabicLetter | .arabicNumber | .europeanNumber => true
  | _ => false

/-- Whether the code points of a label may have these directions.  If any is written from right to
left, the first must be such a letter, the last, marks apart, such a letter or a digit; none is a
letter written from left to right, and all digits are of one kind. -/
def isAllowed (directions : List Direction) : Bool :=
  !directions.any isRightToLeft ||
    ((directions.head? = some .rightToLeft || directions.head? = some .arabicLetter) &&
      !directions.contains .leftToRight &&
      (match directions.reverse.find? fun d => d ≠ .mark with
        | some d => d.canEnd
        | none => false) &&
      !(directions.contains .arabicNumber && directions.contains .europeanNumber))

end Direction

end SearchTuning

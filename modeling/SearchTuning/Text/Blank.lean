import SearchTuning.Text.Basic
import SearchTuning.Text.Ranges

/-!
# Blanks

The white space that is trimmed from the segments of a query string and from settings, and the
narrower set of the `White_Space` property, which is trimmed from numbers in submitted fields.
-/

namespace SearchTuning

/-- The boundaries of the white space with the property `White_Space`. -/
def whiteSpaceBounds : List Nat := [
    0x9, 0xE, 0x20, 0x21, 0x85, 0x86, 0xA0, 0xA1, 0x1680, 0x1681, 0x2000, 0x200B, 0x2028, 0x202A,
    0x202F, 0x2030, 0x205F, 0x2060, 0x3000, 0x3001]

/-- A code point with the property `White_Space`. -/
def CodePoint.isWhiteSpace (c : CodePoint) : Bool := Ranges.contains whiteSpaceBounds c.val

/-- White space, or one of the information separators U+001C to U+001F. -/
def CodePoint.isBlank (c : CodePoint) : Bool :=
  c.isWhiteSpace || (0x1C ≤ c.val && c.val ≤ 0x1F)

/-- The text without the blanks at its ends. -/
def Text.trim (t : Text) : Text := t.trimBy CodePoint.isBlank

end SearchTuning

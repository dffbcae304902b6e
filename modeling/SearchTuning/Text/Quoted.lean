import SearchTuning.Text.Numeral
import SearchTuning.Text.Printable

/-!
# Quoted text

How a text is shown inside a message: between quotes, with all that has no visible form written by
name or by number.
-/

namespace SearchTuning

/-- A code point by its number. -/
def CodePoint.spelled (c : CodePoint) : Text :=
  if c.val < 0x100 then Text.ofString "\\x" ++ Numeral.hex 2 c.val
  else if c.val < 0x10000 then Text.ofString "\\u" ++ Numeral.hex 4 c.val
  else Text.ofString "\\U" ++ Numeral.hex 8 c.val

namespace Text

/-- The single quote. -/
def apostrophe : CodePoint := '\''

/-- The quote around a text: single, unless the text holds single quotes and no double ones. -/
def quoteMark (t : Text) : CodePoint :=
  if t.contains apostrophe && !t.contains (CodePoint.ofChar '"') then '"' else apostrophe

/-- One code point between quotes. -/
def quotedPoint (mark c : CodePoint) : Text :=
  if c = mark ∨ c = '\\' then ['\\', c]
  else if c = '\n' then ofString "\\n"
  else if c = '\r' then ofString "\\r"
  else if c = '\t' then ofString "\\t"
  else if c.isPrintable then [c]
  else c.spelled

/-- The text between quotes. -/
def quoted (t : Text) : Text :=
  let mark := t.quoteMark
  [mark] ++ t.flatMap (quotedPoint mark) ++ [mark]

end Text

end SearchTuning

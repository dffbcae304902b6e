import SearchTuning.Fields.Checked
import SearchTuning.Text.Blank
import SearchTuning.Text.Numeral

/-!
# Numbers written in fields

A field for a whole number takes a text as well.  The text is read as a document writes whole
numbers; if that fails, it is tidied and read once more.  Tidying takes away the blanks around it,
zeros after a point, a plus sign, zeros in front and underscores between digits.
-/

namespace SearchTuning.Coerce

/-- The value of digits without zeros in front. -/
def plainNat? (t : Text) : Option Nat :=
  match Numeral.digits? t with
  | none | some [] => none
  | some [d] => some d.val
  | some (d :: ds) => if d.val = 0 then none else some (Numeral.value (d :: ds))

/-- The value of such digits, perhaps with a minus sign. -/
def plainInt? : Text → Option Int
  | [] => none
  | c :: rest =>
      if c = '-' then (plainNat? rest).map fun n => -Int.ofNat n
      else (plainNat? (c :: rest)).map Int.ofNat

/-- Whether a text begins with a number that has more code points, a minus sign among them, than are
read. -/
def isOverlong (t : Text) : Bool :=
  let digits := (if t.head? = some (CodePoint.ofChar '-') then t.drop 1 else t).takeWhile
    CodePoint.isAsciiDigit
  let sign := if t.head? = some (CodePoint.ofChar '-') then 1 else 0
  digits.head? ≠ some (CodePoint.ofChar '0') && Numeral.digitLimit < sign + digits.length

/-- The text without a point and zeros at its end. -/
def dropZeroFraction (t : Text) : Text :=
  match t.cut? '.' with
  | none => t
  | some (whole, zeros) =>
      if zeros ≠ [] ∧ zeros.all (· = CodePoint.ofChar '0') then whole else t

/-- The text without a sign in front, and whether the sign was a minus. -/
def takeSign : Text → Bool × Text
  | [] => (false, [])
  | c :: rest => if c = '-' then (true, rest) else if c = '+' then (false, rest) else (false, c :: rest)

/-- A text that begins with a digit, without zeros in front.  Underscores among the zeros go with
them, and a digit or a minus sign must follow, unless nothing does: then the last code point
stays. -/
def dropLeadingZeros : Text → Option Text
  | [] => none
  | c :: rest =>
      if c = '0' then
        match rest.dropWhile fun c => c = CodePoint.ofChar '0' || c = CodePoint.ofChar '_' with
        | [] => some [rest.getLast?.getD c]
        | d :: more => if d.isAsciiDigit || d = '-' then some (d :: more) else none
      else if c.isAsciiDigit then some (c :: rest)
      else none

/-- The text without its underscores, each of which must stand between two other code points. -/
def dropUnderscores (t : Text) : Option Text :=
  let groups := t.splitOn '_'
  if groups.contains [] then none else some groups.flatten

/-- The text as it is read once more. -/
def tidy (t : Text) : Option Text :=
  let (negative, rest) := takeSign (dropZeroFraction (t.trimBy CodePoint.isWhiteSpace))
  match dropLeadingZeros rest with
  | none => none
  | some digits => dropUnderscores (if negative then CodePoint.ofChar '-' :: digits else digits)

/-- The value of a tidied text. -/
def intOfTidied (t : Text) : Except Refusal Int :=
  match if t.length ≤ Numeral.digitLimit then plainInt? t else none with
  | some n => .ok n
  | none => .error .unknownInt

/-- The whole number that a text stands for. -/
def intOfText (t : Text) : Except Refusal Int :=
  if t.hasSurrogate then .error .brokenText
  else if isOverlong t then .error .intTooLarge
  else
    match plainInt? t, tidy t with
    | some n, _ => .ok n
    | none, some tidied => intOfTidied tidied
    | none, none => .error .unknownInt

end SearchTuning.Coerce

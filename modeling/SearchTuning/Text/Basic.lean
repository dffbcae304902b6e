/-!
# Text

Templates, phrases and names are sequences of code points.  A surrogate may stand alone in any of
them, so a text is a list of code points and not a `String`, whose characters exclude surrogates.
-/

namespace SearchTuning

/-- A code point, surrogates included. -/
abbrev CodePoint := Fin 0x110000

/-- A sequence of code points. -/
abbrev Text := List CodePoint

namespace CodePoint

/-- The code point of a character. -/
def ofChar (c : Char) : CodePoint :=
  ⟨c.toNat, by
    have h := c.valid
    simp only [UInt32.isValidChar, Nat.isValidChar] at h
    simp only [Char.toNat]
    omega⟩

instance : Coe Char CodePoint := ⟨ofChar⟩

/-- A surrogate: half of a pair, no character of its own. -/
def isSurrogate (c : CodePoint) : Bool := 0xD800 ≤ c.val && c.val ≤ 0xDFFF

def isAscii (c : CodePoint) : Bool := c.val < 0x80

/-- An ASCII control character: below the space, or the delete character. -/
def isAsciiControl (c : CodePoint) : Bool := c.val < 0x20 || c.val = 0x7F

def isAsciiDigit (c : CodePoint) : Bool := 0x30 ≤ c.val && c.val ≤ 0x39

def isAsciiLetter (c : CodePoint) : Bool :=
  (0x41 ≤ c.val && c.val ≤ 0x5A) || (0x61 ≤ c.val && c.val ≤ 0x7A)

def isAsciiAlphanumeric (c : CodePoint) : Bool := c.isAsciiDigit || c.isAsciiLetter

/-- The value of an ASCII decimal digit. -/
def digitValue? (c : CodePoint) : Option (Fin 10) :=
  if h : 0x30 ≤ c.val ∧ c.val ≤ 0x39 then some ⟨c.val - 0x30, by omega⟩ else none

/-- The value of an ASCII hexadecimal digit, in either case. -/
def hexValue? (c : CodePoint) : Option (Fin 16) :=
  if h : 0x30 ≤ c.val ∧ c.val ≤ 0x39 then some ⟨c.val - 0x30, by omega⟩
  else if h : 0x41 ≤ c.val ∧ c.val ≤ 0x46 then some ⟨c.val - 0x37, by omega⟩
  else if h : 0x61 ≤ c.val ∧ c.val ≤ 0x66 then some ⟨c.val - 0x57, by omega⟩
  else none

/-- The ASCII decimal digit of a value. -/
def ofDigit (d : Fin 10) : CodePoint := ⟨0x30 + d.val, by omega⟩

/-- The lower-case ASCII hexadecimal digit of a value. -/
def lowerHex (d : Fin 16) : CodePoint :=
  if d.val < 10 then ⟨0x30 + d.val, by omega⟩ else ⟨0x57 + d.val, by omega⟩

/-- The upper-case ASCII hexadecimal digit of a value. -/
def upperHex (d : Fin 16) : CodePoint :=
  if d.val < 10 then ⟨0x30 + d.val, by omega⟩ else ⟨0x37 + d.val, by omega⟩

/-- Upper-case ASCII letters become lower-case; all else stays. -/
def lowerAscii (c : CodePoint) : CodePoint :=
  if h : 0x41 ≤ c.val ∧ c.val ≤ 0x5A then ⟨c.val + 0x20, by omega⟩ else c

end CodePoint

namespace Text

/-- The text of a string. -/
def ofString (s : String) : Text := s.toList.map CodePoint.ofChar

instance : Coe String Text := ⟨ofString⟩

def hasSurrogate (t : Text) : Bool := t.any CodePoint.isSurrogate

/-- The text with a question mark in the place of each surrogate. -/
def replaceSurrogates (t : Text) : Text := t.map fun c => if c.isSurrogate then '?' else c

def lowerAscii (t : Text) : Text := t.map CodePoint.lowerAscii

/-- The pieces between the occurrences of a separator: one more than there are separators. -/
def splitOn (sep : CodePoint) : Text → List Text
  | [] => [[]]
  | c :: rest =>
      if c = sep then [] :: splitOn sep rest
      else
        match splitOn sep rest with
        | [] => [[c]]
        | piece :: pieces => (c :: piece) :: pieces

/-- The parts before and after the first occurrence of a separator, if there is one. -/
def cut? (sep : CodePoint) : Text → Option (Text × Text)
  | [] => none
  | c :: rest =>
      if c = sep then some ([], rest) else (cut? sep rest).map fun (before, after) => (c :: before, after)

/-- The parts before and after the last occurrence of a separator, if there is one. -/
def cutLast? (sep : CodePoint) (t : Text) : Option (Text × Text) :=
  (cut? sep t.reverse).map fun (after, before) => (before.reverse, after.reverse)

/-- The pieces joined with a separator between each two. -/
def join (sep : Text) : List Text → Text
  | [] => []
  | [piece] => piece
  | piece :: pieces => piece ++ sep ++ join sep pieces

/-- The text without the code points at either end that satisfy a condition. -/
def trimBy (p : CodePoint → Bool) (t : Text) : Text :=
  ((t.dropWhile p).reverse.dropWhile p).reverse

/-- Replaces the occurrences of a mark, leftmost first and without overlap.  The first argument
counts the code points still to be passed over as part of an occurrence. -/
def replaceFrom (mark value : Text) : Nat → Text → Text
  | _, [] => []
  | skip + 1, _ :: rest => replaceFrom mark value skip rest
  | 0, c :: rest =>
      if mark.isPrefixOf (c :: rest) then value ++ replaceFrom mark value (mark.length - 1) rest
      else c :: replaceFrom mark value 0 rest

/-- The text with each occurrence of a mark, leftmost first and without overlap, replaced. -/
def replace (mark value t : Text) : Text := replaceFrom mark value 0 t

end Text

end SearchTuning

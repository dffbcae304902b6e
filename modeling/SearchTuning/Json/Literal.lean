import SearchTuning.Text.Numeral

/-!
# String literals

What stands between the quotes of a string, place by place, and the text it stands for.  A text
has two written forms: one in which only what must be escaped is escaped, and one in ASCII alone.
-/

namespace SearchTuning.Literal

/-- A place in a string literal. -/
inductive Piece where
  /-- A code point that stands for itself. -/
  | plain (c : CodePoint)
  /-- A code point after a backslash, named by one character. -/
  | named (c : CodePoint)
  /-- Four hexadecimal digits after a backslash and a `u`. -/
  | unit (u : Fin 0x10000)
  deriving DecidableEq, Repr

/-- The code point with the number of a unit, which may be a surrogate. -/
def unitPoint (u : Fin 0x10000) : CodePoint := ⟨u.val, by omega⟩

/-- The code point that two surrogates stand for together. -/
def pairPoint? (high low : Fin 0x10000) : Option CodePoint :=
  if h : (0xD800 ≤ high.val ∧ high.val ≤ 0xDBFF) ∧ (0xDC00 ≤ low.val ∧ low.val ≤ 0xDFFF) then
    some ⟨0x10000 + (high.val - 0xD800) * 0x400 + (low.val - 0xDC00), by omega⟩
  else none

/-- The text that a literal stands for.  Two units that are a surrogate pair are one code point. -/
def decode : List Piece → Text
  | [] => []
  | .plain c :: rest => c :: decode rest
  | .named c :: rest => c :: decode rest
  | .unit u :: .unit v :: rest =>
      match pairPoint? u v with
      | some c => c :: decode rest
      | none => unitPoint u :: decode (.unit v :: rest)
  | .unit u :: rest => unitPoint u :: decode rest

/-- The letter that names a code point after a backslash. -/
def letter? (c : CodePoint) : Option CodePoint :=
  if c = '"' ∨ c = '\\' then some c
  else if c = '\n' then some 'n'
  else if c = '\r' then some 'r'
  else if c = '\t' then some 't'
  else if c.val = 0x0C then some 'f'
  else if c.val = 0x08 then some 'b'
  else none

/-- The code point that a letter names after a backslash. -/
def named? (letter : CodePoint) : Option CodePoint :=
  if letter = '"' ∨ letter = '\\' ∨ letter = '/' then some letter
  else if letter = 'n' then some '\n'
  else if letter = 'r' then some '\r'
  else if letter = 't' then some '\t'
  else if letter = 'f' then some 0x0C
  else if letter = 'b' then some 0x08
  else none

/-- A unit as it is written. -/
def unitText (u : Nat) : Text := CodePoint.ofChar '\\' :: CodePoint.ofChar 'u' :: Numeral.hex 4 u

/-- A code point as it is written where only what must be escaped is escaped. -/
def rawPoint (c : CodePoint) : Text :=
  match letter? c with
  | some letter => ['\\', letter]
  | none => if c.val < 0x20 then unitText c.val else [c]

/-- A code point as it is written in ASCII alone: what is beyond 16 bits is a surrogate pair. -/
def asciiPoint (c : CodePoint) : Text :=
  match letter? c with
  | some letter => ['\\', letter]
  | none =>
      if 0x20 ≤ c.val ∧ c.val < 0x7F then [c]
      else if c.val < 0x10000 then unitText c.val
      else
        unitText (0xD800 + (c.val - 0x10000) / 0x400) ++ unitText (0xDC00 + (c.val - 0x10000) % 0x400)

/-- The inside of a literal for a text, in one of the two forms. -/
def encode (ascii : Bool) (t : Text) : Text :=
  if ascii then t.flatMap asciiPoint else t.flatMap rawPoint

/-- The literal for a text, quotes included. -/
def quote (ascii : Bool) (t : Text) : Text :=
  CodePoint.ofChar '"' :: encode ascii t ++ [CodePoint.ofChar '"']

end SearchTuning.Literal
